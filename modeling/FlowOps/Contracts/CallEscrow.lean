import FlowOps.Common.Check
import FlowOps.Common.Dict
import FlowOps.Common.Evm
import FlowOps.Common.Solvency
import FlowOps.Common.Transactions

/-!
# `CallEscrow`

The task-bound escrow of `CallEscrow.sol`. A call is funded by its buyer, acknowledged
and delivered by its provider before two inclusive deadlines, and then released to the
provider or, after a missed deadline, refunded to the buyer. The state of the model is
the contract's storage and the balances of its asset.

Reentrancy is excluded by the asset having no callbacks. Timestamps are natural
numbers; `uint64(block.timestamp)` is the truncation `UInt64.ofNat`.

Results:
* `call_ok_iff`: what a call that succeeds has checked and done: a funding, an advance
  of one call, or the settlement of one call.
* `run_ok`: `totalLocked` is the sum over the open calls, and covered by the balance.
-/

namespace FlowOps.CallEscrow

open Evm Dict

/-! ## Storage -/

/-- `State` (CallEscrow.sol:20). -/
inductive State where
  | none | funded | acknowledged | delivered | released | refunded
deriving DecidableEq

/-- `Call` (CallEscrow.sol:29), with the zero values of an unused slot. -/
structure Call where
  buyer : Address := 0
  provider : Address := 0
  amount : ℕ := 0
  acknowledgeBy : UInt64 := 0
  deliverBy : UInt64 := 0
  deliveredAt : UInt64 := 0
  taskDigest : Bytes32 := 0
  requestDigest : Bytes32 := 0
  responseDigest : Bytes32 := 0
  evidenceDigest : Bytes32 := 0
  state : State := .none
deriving DecidableEq

/-- `MAX_OPTIMISTIC_RELEASE_WINDOW` (CallEscrow.sol:43). -/
def maxOptimisticReleaseWindow : ℕ := 30 * 24 * 60 * 60

/-- A deployed contract: its chain, its address and its immutables, with the check of
the constructor. -/
structure Deployment where
  chainId : ℕ
  (this asset : Address)
  optimisticReleaseWindow : ℕ
  keccak256 : List (BitVec 8) → Bytes32
  window_pos : 0 < optimisticReleaseWindow
  window_le : optimisticReleaseWindow ≤ maxOptimisticReleaseWindow

/-- `CALL_ID_DOMAIN` (CallEscrow.sol:18). -/
def Deployment.callIdDomain (d : Deployment) : Bytes32 :=
  d.keccak256 (textBytes "FLOWOPS_CALL_ESCROW_V1")

/-- `deriveCallId` (CallEscrow.sol:241). -/
def Deployment.deriveCallId (d : Deployment) (buyer : Address) (taskDigest requestDigest : Bytes32) :
    Bytes32 :=
  d.keccak256 (abiEncode [d.callIdDomain, natWord d.chainId, addressWord d.this, addressWord buyer,
    taskDigest, requestDigest])

/-- The storage of the contract and the balances of the asset. -/
structure Storage where
  totalLocked : ℕ
  calls : Dict Bytes32 Call
  balance : Address → ℕ

/-- `getCall` (CallEscrow.sol:234): `_calls[callId]`. -/
def Storage.getCall (s : Storage) (callId : Bytes32) : Call := (s.calls.lookup callId).getD {}

/-- `_calls[callId] = call_`. -/
def Storage.setCall (s : Storage) (callId : Bytes32) (c : Call) : Storage :=
  { s with calls := s.calls.insert callId c }

def Storage.init (balance : Address → ℕ) : Storage :=
  { totalLocked := 0, calls := ∅, balance := balance }

/-! ## Methods -/

/-- The errors of the contract, the panics of checked arithmetic, and a refused
transfer of the asset. -/
inductive Revert where
  | callIdZero
  | badCallId (expected actual : Bytes32)
  | callExists (callId : Bytes32)
  | providerZero
  | buyerIsProvider (account : Address)
  | amountZero | digestZero
  | badDeadlines (acknowledgeBy deliverBy : UInt64) (nowTs : ℕ)
  | wrongState (callId : Bytes32) (have_ want : State)
  | notBuyer (callId : Bytes32) (caller : Address)
  | notProvider (callId : Bytes32) (caller : Address)
  | acknowledgementWindowClosed (callId : Bytes32) (acknowledgeBy : UInt64) (nowTs : ℕ)
  | deliveryWindowClosed (callId : Bytes32) (deliverBy : UInt64) (nowTs : ℕ)
  | releaseWindowOpen (callId : Bytes32) (releasableAt nowTs : ℕ)
  | refundNotAvailable (callId : Bytes32) (state : State) (eligibleAt nowTs : ℕ)
  | inexactFunding (expected received : ℕ)
  | overflow | underflow | transferFailed
deriving DecidableEq

/-- The events of the contract, and the asset's `Transfer`. -/
inductive Log where
  | transfer (src dst : Address) (amount : ℕ)
  | callFunded (callId : Bytes32) (buyer provider : Address) (amount : ℕ)
      (taskDigest requestDigest : Bytes32) (acknowledgeBy deliverBy : UInt64)
  | callAcknowledged (callId : Bytes32) (provider : Address)
  | deliverySubmitted (callId : Bytes32) (provider : Address) (responseDigest evidenceDigest : Bytes32)
      (deliveredAt : UInt64) (releasableAt : ℕ)
  | released (callId : Bytes32) (provider : Address) (amount : ℕ) (buyerAccepted : Bool)
  | refunded (callId : Bytes32) (buyer : Address) (amount : ℕ) (expiredFrom : State)
deriving DecidableEq

/-- `msg.sender`, `block.timestamp`, and whether the asset lets the transfer of this
transaction through. -/
structure Msg where
  sender : Address
  timestamp : ℕ
  accepts : Bool

inductive Method where
  | fund (callId : Bytes32) (provider : Address) (amount : ℕ) (taskDigest requestDigest : Bytes32)
      (acknowledgeBy deliverBy : UInt64)
  | acknowledge (callId : Bytes32)
  | submitDelivery (callId responseDigest evidenceDigest : Bytes32)
  | acceptDelivery (callId : Bytes32)
  | optimisticRelease (callId : Bytes32)
  | refundExpired (callId : Bytes32)

/-- A transaction to the contract, or any other activity on the asset. -/
inductive Input where
  | call (msg : Msg) (method : Method)
  | asset (balance : Address → ℕ)

section

variable (d : Deployment) (s : Storage) (m : Msg)

/-- What a transaction returns. -/
abbrev Result := Except Revert (Storage × List Log)

/-- `fund` (CallEscrow.sol:103). -/
def fund (callId : Bytes32) (provider : Address) (amount : ℕ) (taskDigest requestDigest : Bytes32)
    (acknowledgeBy deliverBy : UInt64) : Result :=
  if callId = 0 then .error .callIdZero
  else if provider = 0 then .error .providerZero
  else if provider = m.sender then .error (.buyerIsProvider m.sender)
  else if amount = 0 then .error .amountZero
  else if taskDigest = 0 ∨ requestDigest = 0 then .error .digestZero
  else if acknowledgeBy.toNat ≤ m.timestamp ∨ deliverBy.toNat ≤ acknowledgeBy.toNat then
    .error (.badDeadlines acknowledgeBy deliverBy m.timestamp)
  else if callId ≠ d.deriveCallId m.sender taskDigest requestDigest then
    .error (.badCallId (d.deriveCallId m.sender taskDigest requestDigest) callId)
  else if (s.getCall callId).state ≠ .none then .error (.callExists callId)
  else if 2 ^ 256 ≤ s.totalLocked + amount then .error .overflow
  else
    match transfer s.balance m.accepts m.sender d.this amount with
    | none => .error .transferFailed
    | some balance =>
      if balance d.this - s.balance d.this ≠ amount then
        .error (.inexactFunding amount (balance d.this - s.balance d.this))
      else
        .ok ({ totalLocked := s.totalLocked + amount
               calls := s.calls.insert callId
                 { buyer := m.sender, provider, amount, acknowledgeBy, deliverBy, taskDigest
                   requestDigest, state := .funded }
               balance }, [.transfer m.sender d.this amount,
            .callFunded callId m.sender provider amount taskDigest requestDigest acknowledgeBy
              deliverBy])

/-- `_requireState` (CallEscrow.sol:262), and the rest of the method. -/
def requireState {α : Type} (s : Storage) (callId : Bytes32) (want : State)
    (rest : Call → Except Revert α) : Except Revert α :=
  if (s.getCall callId).state ≠ want then
    .error (.wrongState callId (s.getCall callId).state want)
  else rest (s.getCall callId)

/-- `acknowledge` (CallEscrow.sol:150). -/
def acknowledge (callId : Bytes32) : Result :=
  requireState s callId .funded fun c =>
    if m.sender ≠ c.provider then .error (.notProvider callId m.sender)
    else if c.acknowledgeBy.toNat < m.timestamp then
      .error (.acknowledgementWindowClosed callId c.acknowledgeBy m.timestamp)
    else
      .ok (s.setCall callId { c with state := .acknowledged }, [.callAcknowledged callId m.sender])

/-- `submitDelivery` (CallEscrow.sol:164). -/
def submitDelivery (callId responseDigest evidenceDigest : Bytes32) : Result :=
  requireState s callId .acknowledged fun c =>
    if m.sender ≠ c.provider then .error (.notProvider callId m.sender)
    else if c.deliverBy.toNat < m.timestamp then
      .error (.deliveryWindowClosed callId c.deliverBy m.timestamp)
    else if responseDigest = 0 ∨ evidenceDigest = 0 then .error .digestZero
    else
      .ok (s.setCall callId
          { c with
            responseDigest, evidenceDigest, deliveredAt := UInt64.ofNat m.timestamp
            state := .delivered },
        [.deliverySubmitted callId m.sender responseDigest evidenceDigest (UInt64.ofNat m.timestamp)
          (m.timestamp + d.optimisticReleaseWindow)])

/-- The end of `_release` and of `refundExpired`: the state, `totalLocked -= amount`
and `safeTransfer`, with the event. -/
def settle (callId : Bytes32) (c : Call) (state : State) (recipient : Address) (log : Log) :
    Result :=
  if s.totalLocked < c.amount then .error .underflow
  else
    match transfer s.balance m.accepts d.this recipient c.amount with
    | none => .error .transferFailed
    | some balance =>
      .ok ({ totalLocked := s.totalLocked - c.amount
             calls := s.calls.insert callId { c with state }
             balance }, [.transfer d.this recipient c.amount, log])

/-- `_release` (CallEscrow.sol:255). -/
def release (callId : Bytes32) (c : Call) (buyerAccepted : Bool) : Result :=
  settle d s m callId c .released c.provider (.released callId c.provider c.amount buyerAccepted)

/-- `acceptDelivery` (CallEscrow.sol:190). -/
def acceptDelivery (callId : Bytes32) : Result :=
  requireState s callId .delivered fun c =>
    if m.sender ≠ c.buyer then .error (.notBuyer callId m.sender)
    else release d s m callId c true

/-- `optimisticRelease` (CallEscrow.sol:199). -/
def optimisticRelease (callId : Bytes32) : Result :=
  requireState s callId .delivered fun c =>
    if m.timestamp < c.deliveredAt.toNat + d.optimisticReleaseWindow then
      .error (.releaseWindowOpen callId (c.deliveredAt.toNat + d.optimisticReleaseWindow) m.timestamp)
    else release d s m callId c false

/-- The deadline after which a call in this state can be refunded
(CallEscrow.sol:214-222). -/
def Call.eligibleAt (c : Call) : Option ℕ :=
  match c.state with
  | .funded => some c.acknowledgeBy.toNat
  | .acknowledged => some c.deliverBy.toNat
  | _ => none

/-- `refundExpired` (CallEscrow.sol:212). -/
def refundExpired (callId : Bytes32) : Result :=
  let c := s.getCall callId
  match c.eligibleAt with
  | none => .error (.refundNotAvailable callId c.state 0 m.timestamp)
  | some eligibleAt =>
    if m.timestamp ≤ eligibleAt then
      .error (.refundNotAvailable callId c.state (eligibleAt + 1) m.timestamp)
    else settle d s m callId c .refunded c.buyer (.refunded callId c.buyer c.amount c.state)

end

/-- A transaction. Other activity on the asset takes nothing from the contract, which
never gives an allowance. -/
def call (d : Deployment) (s : Storage) : Input → Result
  | .call m (.fund callId provider amount taskDigest requestDigest acknowledgeBy deliverBy) =>
    fund d s m callId provider amount taskDigest requestDigest acknowledgeBy deliverBy
  | .call m (.acknowledge callId) => acknowledge s m callId
  | .call m (.submitDelivery callId responseDigest evidenceDigest) =>
    submitDelivery d s m callId responseDigest evidenceDigest
  | .call m (.acceptDelivery callId) => acceptDelivery d s m callId
  | .call m (.optimisticRelease callId) => optimisticRelease d s m callId
  | .call m (.refundExpired callId) => refundExpired d s m callId
  | .asset balance =>
    if balance d.this < s.balance d.this then .error .transferFailed
    else .ok ({ s with balance }, [])

/-- The storage after the transactions, from a fresh deployment. -/
abbrev run (d : Deployment) (balance : Address → ℕ) (inputs : List Input) : Storage :=
  execute (call d) (Storage.init balance) inputs

/-- A transaction that was not reverted. -/
abbrev Taken := Success Storage Input (List Log)

abbrev history (d : Deployment) (balance : Address → ℕ) (inputs : List Input) : List Taken :=
  successes (call d) (Storage.init balance) inputs

/-! ## What a successful call did -/

/-- The checks of `fund`. -/
structure Fundable (d : Deployment) (s : Storage) (m : Msg) (callId : Bytes32) (c : Call) : Prop where
  buyer : c.buyer = m.sender
  fresh : c.deliveredAt = 0 ∧ c.responseDigest = 0 ∧ c.evidenceDigest = 0 ∧ c.state = .funded
  nonzero : callId ≠ 0
  provider : c.provider ≠ 0 ∧ c.provider ≠ c.buyer
  amount : c.amount ≠ 0
  digests : c.taskDigest ≠ 0 ∧ c.requestDigest ≠ 0
  deadlines : m.timestamp < c.acknowledgeBy.toNat ∧ c.acknowledgeBy.toNat < c.deliverBy.toNat
  derived : callId = d.deriveCallId c.buyer c.taskDigest c.requestDigest
  unused : (s.getCall callId).state = .none
  bound : s.totalLocked + c.amount < 2 ^ 256
  accepted : m.accepts
  paid : c.amount ≤ s.balance c.buyer
  external : c.buyer ≠ d.this

/-- The provider moves an open call on. -/
inductive Advance (d : Deployment) (m : Msg) (callId : Bytes32) (c : Call) : Method → Call → Log → Prop
  | acknowledge (hstate : c.state = .funded) (hsender : m.sender = c.provider)
      (htime : m.timestamp ≤ c.acknowledgeBy.toNat) :
      Advance d m callId c (.acknowledge callId) { c with state := .acknowledged }
        (.callAcknowledged callId m.sender)
  | submitDelivery {responseDigest evidenceDigest : Bytes32} (hstate : c.state = .acknowledged)
      (hsender : m.sender = c.provider) (htime : m.timestamp ≤ c.deliverBy.toNat)
      (hdigests : responseDigest ≠ 0 ∧ evidenceDigest ≠ 0) :
      Advance d m callId c (.submitDelivery callId responseDigest evidenceDigest)
        { c with
          responseDigest, evidenceDigest, deliveredAt := UInt64.ofNat m.timestamp
          state := .delivered }
        (.deliverySubmitted callId m.sender responseDigest evidenceDigest (UInt64.ofNat m.timestamp)
          (m.timestamp + d.optimisticReleaseWindow))

inductive Settlement (d : Deployment) (m : Msg) (callId : Bytes32) (c : Call) :
    Method → State → Address → Log → Prop
  | accept (hstate : c.state = .delivered) (hsender : m.sender = c.buyer) :
      Settlement d m callId c (.acceptDelivery callId) .released c.provider
        (.released callId c.provider c.amount true)
  | optimistic (hstate : c.state = .delivered)
      (htime : c.deliveredAt.toNat + d.optimisticReleaseWindow ≤ m.timestamp) :
      Settlement d m callId c (.optimisticRelease callId) .released c.provider
        (.released callId c.provider c.amount false)
  | refundFunded (hstate : c.state = .funded) (htime : c.acknowledgeBy.toNat < m.timestamp) :
      Settlement d m callId c (.refundExpired callId) .refunded c.buyer
        (.refunded callId c.buyer c.amount .funded)
  | refundAcknowledged (hstate : c.state = .acknowledged) (htime : c.deliverBy.toNat < m.timestamp) :
      Settlement d m callId c (.refundExpired callId) .refunded c.buyer
        (.refunded callId c.buyer c.amount .acknowledged)

inductive Step (d : Deployment) (s : Storage) : Input → Storage → List Log → Prop
  | asset {balance : Address → ℕ} (h : s.balance d.this ≤ balance d.this) :
      Step d s (.asset balance) { s with balance } []
  | fund {m : Msg} {callId : Bytes32} {c : Call} (h : Fundable d s m callId c) :
      Step d s
        (.call m (.fund callId c.provider c.amount c.taskDigest c.requestDigest c.acknowledgeBy
          c.deliverBy))
        { totalLocked := s.totalLocked + c.amount, calls := s.calls.insert callId c
          balance := moved s.balance c.buyer d.this c.amount }
        [.transfer c.buyer d.this c.amount,
          .callFunded callId c.buyer c.provider c.amount c.taskDigest c.requestDigest c.acknowledgeBy
            c.deliverBy]
  | advance {m : Msg} {callId : Bytes32} {method : Method} {c' : Call} {log : Log}
      (h : Advance d m callId (s.getCall callId) method c' log) :
      Step d s (.call m method) (s.setCall callId c') [log]
  | settle {m : Msg} {callId : Bytes32} {method : Method} {state : State} {recipient : Address}
      {log : Log} (h : Settlement d m callId (s.getCall callId) method state recipient log)
      (hlocked : (s.getCall callId).amount ≤ s.totalLocked) (haccepts : m.accepts)
      (hbalance : (s.getCall callId).amount ≤ s.balance d.this) :
      Step d s (.call m method)
        { totalLocked := s.totalLocked - (s.getCall callId).amount
          calls := s.calls.insert callId { s.getCall callId with state }
          balance := moved s.balance d.this recipient (s.getCall callId).amount }
        [.transfer d.this recipient (s.getCall callId).amount, log]

section

variable {d : Deployment} {s s' : Storage} {m : Msg} {callId : Bytes32} {o : List Log}

lemma fund_ok {provider : Address} {amount : ℕ} {taskDigest requestDigest : Bytes32}
    {acknowledgeBy deliverBy : UInt64}
    (h : fund d s m callId provider amount taskDigest requestDigest acknowledgeBy deliverBy =
      .ok (s', o)) :
    Step d s (.call m (.fund callId provider amount taskDigest requestDigest acknowledgeBy deliverBy))
      s' o := by
  simp only [fund, guard_ok, not_or, not_not, not_le] at h
  obtain ⟨hid, hprovider, hself, hamount, hdigests, hdeadlines, hderived, hunused, hbound, h⟩ := h
  cases ht : transfer s.balance m.accepts m.sender d.this amount with
  | none => simp [ht] at h
  | some balance =>
    simp only [ht, guard_ok, not_not, ok_pair_eq] at h
    obtain ⟨hexact, rfl, rfl⟩ := h
    obtain ⟨haccepts, hpaid, rfl⟩ := transfer_eq_some.mp ht
    exact Step.fund (c := { buyer := m.sender, provider, amount, acknowledgeBy, deliverBy
                            taskDigest, requestDigest, state := .funded })
      ⟨rfl, ⟨rfl, rfl, rfl, rfl⟩, hid, ⟨hprovider, hself⟩, hamount, hdigests, hdeadlines, hderived,
        hunused, hbound, haccepts, hpaid, ne_of_received hpaid hamount hexact⟩

lemma settle_ok {c : Call} {state : State} {recipient : Address} {log : Log} :
    settle d s m callId c state recipient log = .ok (s', o) ↔
      c.amount ≤ s.totalLocked ∧ m.accepts ∧ c.amount ≤ s.balance d.this ∧
        { totalLocked := s.totalLocked - c.amount, calls := s.calls.insert callId { c with state }
          balance := moved s.balance d.this recipient c.amount } = s' ∧
        [.transfer d.this recipient c.amount, log] = o := by
  simp only [settle, guard_ok, not_lt]
  cases ht : transfer s.balance m.accepts d.this recipient c.amount with
  | none =>
    simp only [reduceCtorEq, and_false, false_iff]
    rintro ⟨-, haccepts, hbalance, -⟩
    simp [transfer, haccepts, hbalance] at ht
  | some balance =>
    obtain ⟨haccepts, hbalance, rfl⟩ := transfer_eq_some.mp ht
    simp [haccepts, hbalance]

lemma requireState_ok {α : Type} {want : State} {rest : Call → Except Revert α} {a : α} :
    requireState s callId want rest = .ok a ↔
      (s.getCall callId).state = want ∧ rest (s.getCall callId) = .ok a := by
  simp only [requireState, guard_ok, not_not]

lemma call_ok {i : Input} (h : call d s i = .ok (s', o)) : Step d s i s' o := by
  match i with
  | .call m (.fund callId provider amount taskDigest requestDigest acknowledgeBy deliverBy) =>
    exact fund_ok h
  | .call m (.acknowledge callId) =>
    simp only [call, acknowledge, requireState_ok, guard_ok, not_not, not_lt, ok_pair_eq] at h
    obtain ⟨hstate, hsender, htime, rfl, rfl⟩ := h
    exact .advance (.acknowledge hstate hsender htime)
  | .call m (.submitDelivery callId responseDigest evidenceDigest) =>
    simp only [call, submitDelivery, requireState_ok, guard_ok, not_not, not_lt, not_or,
      ok_pair_eq] at h
    obtain ⟨hstate, hsender, htime, hdigests, rfl, rfl⟩ := h
    exact .advance (.submitDelivery hstate hsender htime hdigests)
  | .call m (.acceptDelivery callId) =>
    simp only [call, acceptDelivery, release, requireState_ok, guard_ok, not_not, settle_ok] at h
    obtain ⟨hstate, hsender, hlocked, haccepts, hbalance, rfl, rfl⟩ := h
    exact .settle (.accept hstate hsender) hlocked haccepts hbalance
  | .call m (.optimisticRelease callId) =>
    simp only [call, optimisticRelease, release, requireState_ok, guard_ok, not_lt, settle_ok] at h
    obtain ⟨hstate, htime, hlocked, haccepts, hbalance, rfl, rfl⟩ := h
    exact .settle (.optimistic hstate htime) hlocked haccepts hbalance
  | .call m (.refundExpired callId) =>
    simp only [call, refundExpired, Call.eligibleAt] at h
    cases hstate : (s.getCall callId).state with
    | funded =>
      simp only [hstate, guard_ok, not_le, settle_ok] at h
      obtain ⟨htime, hlocked, haccepts, hbalance, rfl, rfl⟩ := h
      exact .settle (.refundFunded hstate htime) hlocked haccepts hbalance
    | acknowledged =>
      simp only [hstate, guard_ok, not_le, settle_ok] at h
      obtain ⟨htime, hlocked, haccepts, hbalance, rfl, rfl⟩ := h
      exact .settle (.refundAcknowledged hstate htime) hlocked haccepts hbalance
    | none | delivered | released | refunded => simp [hstate] at h
  | .asset balance =>
    simp only [call, guard_ok, not_lt, ok_pair_eq] at h
    obtain ⟨hbalance, rfl, rfl⟩ := h
    exact .asset hbalance

lemma call_ok_iff {i : Input} : call d s i = .ok (s', o) ↔ Step d s i s' o := by
  refine ⟨call_ok, fun h => ?_⟩
  cases h with
  | asset h => simpa [call] using h
  | @fund m callId c h =>
    obtain ⟨buyer, provider, amount, acknowledgeBy, deliverBy, deliveredAt, taskDigest, requestDigest,
      responseDigest, evidenceDigest, state⟩ := c
    obtain ⟨rfl, ⟨rfl, rfl, rfl, rfl⟩, hid, ⟨hprovider, hself⟩, hamount, hdigests, hdeadlines,
      hderived, hunused, hbound, haccepts, hpaid, hexternal⟩ := h
    have hreceived : moved s.balance m.sender d.this amount d.this - s.balance d.this = amount := by
      rw [moved_dst (Ne.symm hexternal)]
      omega
    simp only [call, fund, guard_ok, not_or, not_not, not_le]
    refine ⟨hid, hprovider, hself, hamount, hdigests, hdeadlines, hderived, hunused, hbound, ?_⟩
    rw [transfer_eq_some.mpr ⟨haccepts, hpaid, rfl⟩]
    simp [hreceived]
  | advance h =>
    cases h with
    | acknowledge hstate hsender htime =>
      simp [call, acknowledge, requireState_ok, hstate, hsender, Nat.not_lt.mpr htime]
    | submitDelivery hstate hsender htime hdigests =>
      simpa [call, submitDelivery, requireState_ok, hstate, hsender, Nat.not_lt.mpr htime]
        using hdigests
  | settle h hlocked haccepts hbalance =>
    cases h with
    | accept hstate hsender =>
      simp [call, acceptDelivery, release, requireState_ok, settle_ok, *]
    | optimistic hstate htime =>
      simp [call, optimisticRelease, release, requireState_ok, settle_ok, Nat.not_lt.mpr htime, *]
    | refundFunded hstate htime | refundAcknowledged hstate htime =>
      simp [call, refundExpired, Call.eligibleAt, settle_ok, Nat.not_le.mpr htime, *]

end

/-! ## Solvency -/

/-- The part of a call that is fixed when it is funded. -/
structure Terms where
  (buyer provider : Address)
  amount : ℕ
  (taskDigest requestDigest : Bytes32)
  (acknowledgeBy deliverBy : UInt64)

def Call.terms (c : Call) : Terms :=
  ⟨c.buyer, c.provider, c.amount, c.taskDigest, c.requestDigest, c.acknowledgeBy, c.deliverBy⟩

/-- What `fund` has checked of the terms. -/
structure Terms.OK (d : Deployment) (callId : Bytes32) (t : Terms) : Prop where
  nonzero : callId ≠ 0
  provider : t.provider ≠ 0 ∧ t.provider ≠ t.buyer
  amount : 0 < t.amount ∧ t.amount < 2 ^ 256
  digests : t.taskDigest ≠ 0 ∧ t.requestDigest ≠ 0
  deadlines : 0 < t.acknowledgeBy.toNat ∧ t.acknowledgeBy.toNat < t.deliverBy.toNat
  derived : callId = d.deriveCallId t.buyer t.taskDigest t.requestDigest

/-- The call holds its amount in the contract. -/
def State.isOpen : State → Bool
  | .funded | .acknowledged | .delivered => true
  | .none | .released | .refunded => false

def Call.lockedAmount (c : Call) : ℕ := if c.state.isOpen then c.amount else 0

def lockedSum (calls : Dict Bytes32 Call) : ℕ := Dict.sum (fun _ c => c.lockedAmount) calls

structure Storage.OK (d : Deployment) (s : Storage) : Prop where
  solvent : Solvent Call.lockedAmount s.calls s.totalLocked (s.balance d.this)
  stored : ∀ callId c, s.calls.lookup callId = some c → c.state ≠ .none ∧ c.terms.OK d callId

section

variable {d : Deployment} {s s' : Storage} {m : Msg} {callId : Bytes32} {c c' : Call} {i : Input}
  {o : List Log} {method : Method} {log : Log} {state : State} {recipient : Address}

lemma getCall_insert (calls : Dict Bytes32 Call) (n : ℕ) (balance : Address → ℕ)
    (callId id : Bytes32) (c : Call) :
    (Storage.mk n (calls.insert callId c) balance).getCall id =
      if id = callId then c else (Storage.mk n calls balance).getCall id :=
  getD_lookup_insert ..

lemma getCall_of_lookup (h : s.calls.lookup callId = some c) : s.getCall callId = c := by
  simp [Storage.getCall, h]

lemma lookup_of_state (h : (s.getCall callId).state ≠ .none) :
    s.calls.lookup callId = some (s.getCall callId) :=
  lookup_eq_some_getD fun heq => h (congrArg Call.state heq)

lemma lockedAmount_of_isOpen (h : c.state.isOpen) : c.lockedAmount = c.amount := if_pos h

lemma Advance.isOpen (h : Advance d m callId c method c' log) :
    c.state.isOpen ∧ c'.state.isOpen ∧ c'.terms = c.terms := by
  cases h with
  | acknowledge hstate | submitDelivery hstate => exact ⟨by rw [hstate]; rfl, rfl, rfl⟩

lemma Settlement.isOpen (h : Settlement d m callId c method state recipient log) :
    c.state.isOpen ∧ state.isOpen = false ∧ state ≠ .none := by
  cases h with
  | accept hstate | optimistic hstate | refundFunded hstate | refundAcknowledged hstate =>
    exact ⟨by rw [hstate]; rfl, rfl, by decide⟩

lemma state_ne_none_of_isOpen (h : c.state.isOpen) : c.state ≠ .none := by
  intro hnone
  rw [hnone] at h
  cases h

lemma Storage.OK.lookup_none (h : s.OK d) (hunused : (s.getCall callId).state = .none) :
    s.calls.lookup callId = none := by
  cases hl : s.calls.lookup callId with
  | none => rfl
  | some c =>
    rw [getCall_of_lookup hl] at hunused
    exact absurd hunused (h.stored callId c hl).1

lemma Storage.OK.amount_le (h : s.OK d) (hopen : (s.getCall callId).state.isOpen) :
    (s.getCall callId).amount ≤ s.totalLocked := by
  rw [← lockedAmount_of_isOpen hopen]
  exact h.solvent.owed_le (lookup_of_state (state_ne_none_of_isOpen hopen))

lemma Storage.OK.stored_insert (h : s.OK d) (hc : c.state ≠ .none ∧ c.terms.OK d callId) :
    ∀ id c₁, (s.calls.insert callId c).lookup id = some c₁ → c₁.state ≠ .none ∧ c₁.terms.OK d id := by
  intro id c₁ hl
  rcases lookup_insert_eq_some.mp hl with ⟨rfl, rfl⟩ | ⟨-, hl⟩
  · exact hc
  · exact h.stored id c₁ hl

lemma Fundable.terms_ok (h : Fundable d s m callId c) : c.terms.OK d callId where
  nonzero := h.nonzero
  provider := h.provider
  amount := ⟨Nat.pos_of_ne_zero h.amount, by have := h.bound; show c.amount < 2 ^ 256; omega⟩
  digests := h.digests
  deadlines := ⟨by have := h.deadlines.1; show 0 < c.acknowledgeBy.toNat; omega, h.deadlines.2⟩
  derived := h.derived

lemma Storage.OK.step (h : s.OK d) (hs : Step d s i s' o) : s'.OK d := by
  cases hs with
  | asset hbalance => exact ⟨h.solvent.mono hbalance, h.stored⟩
  | @fund m callId c hf =>
    have hopen : c.state.isOpen := by rw [hf.fresh.2.2.2]; rfl
    refine ⟨?_, h.stored_insert ⟨state_ne_none_of_isOpen hopen, hf.terms_ok⟩⟩
    show Solvent _ _ (s.totalLocked + c.amount) (moved s.balance c.buyer d.this c.amount d.this)
    rw [moved_dst (Ne.symm hf.external), ← lockedAmount_of_isOpen hopen]
    exact h.solvent.enter (h.lookup_none hf.unused) c
  | @advance m callId method c' log ha =>
    obtain ⟨hopen, hopen', hterms⟩ := ha.isOpen
    have hl := lookup_of_state (state_ne_none_of_isOpen hopen)
    have hamount : c'.amount = (s.getCall callId).amount := congrArg Terms.amount hterms
    refine ⟨h.solvent.keep hl ?_,
      h.stored_insert ⟨state_ne_none_of_isOpen hopen', hterms ▸ (h.stored _ _ hl).2⟩⟩
    rw [lockedAmount_of_isOpen hopen, lockedAmount_of_isOpen hopen', hamount]
  | @settle m callId method state recipient log hset hlocked haccepts hbalance =>
    obtain ⟨hopen, hclosed, hne⟩ := hset.isOpen
    have hl := lookup_of_state (state_ne_none_of_isOpen hopen)
    refine ⟨?_, h.stored_insert ⟨hne, (h.stored _ _ hl).2⟩⟩
    have hnew : Call.lockedAmount { s.getCall callId with state } = 0 := by
      simp [Call.lockedAmount, hclosed]
    rw [← lockedAmount_of_isOpen hopen]
    exact h.solvent.pay hl hnew (le_moved_src ..)

lemma init_ok (balance : Address → ℕ) : (Storage.init balance).OK d :=
  ⟨.empty _ _, fun _ _ h => by cases h⟩

lemma run_ok (balance : Address → ℕ) (inputs : List Input) : (run d balance inputs).OK d :=
  execute_invariant (fun _ _ _ _ h hc => h.step (call_ok hc)) (init_ok balance) inputs

end

end FlowOps.CallEscrow

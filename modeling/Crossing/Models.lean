import Crossing.RelationalTable

namespace Crossing

open Relational

/-!
# The stored data

One structure per table of `models.py`, with the columns that the modelled
functions read or write, and the database as the record of all tables.  Status
columns are enumerations.  Columns that hold JSON text hold the value the text
encodes.
-/

/-- Primary keys.  `new_id` draws them; the code only compares them. -/
abbrev Id := Nat

/-- Canonical JSON text of a value that the code passes through unread. -/
abbrev JsonText := String

/-- Integer cents. -/
abbrev Cents := Int

/--
A Python datetime: wall-clock microseconds and, when it is aware, its UTC
offset.
-/
structure Datetime where
  wall : Int
  utcoffset : Option Int
  deriving Repr, DecidableEq

/-- Stable reason codes of denials, and the two that only `invoke` returns. -/
inductive Reason where
  | mandateForged
  | mandateExpired
  | mandateRevoked
  | nonceReplay
  | toolNotAllowed
  | serverNotAllowed
  | callOverMax
  | budgetExceeded
  | agentRevoked
  | principalMissing
  | childSpendEscalation
  | childExpiryEscalation
  | childToolsEscalation
  | childServersEscalation
  | childMaxCallEscalation
  | childBudgetEscalation
  | maxCallsExceeded
  | unknownTool
  | productionSecretsMissing
  | idempotencyConflict
  | signedStateDiverged
  | invalidAmount
  | agentPrincipalMismatch
  | childAgentNotDescendant
  | unauthorized
  | inProgress
  | rateLimited
  | payloadTooLarge
  | invalidArguments
  | providerUrlDenied
  | billingRequired
  | mcpError
  | finalizeLost
  deriving Repr, DecidableEq

/-! ## Tenants, principals and agents -/

/-- `accounts`. -/
structure Account where
  id : Id
  stripeCustomerId : Option String
  stripeStatus : Option String
  feeMicrocents : Int
  feeInvoicedCents : Int
  deriving Repr, DecidableEq

/-- `principals`. -/
structure Principal where
  id : Id
  accountId : Id
  pubkeyHex : Option String
  deriving Repr, DecidableEq

/-- `agents`. -/
structure Agent where
  id : Id
  principalId : Id
  parentId : Option Id
  revoked : Bool
  deriving Repr, DecidableEq

/-- `tasks`. -/
structure Task where
  id : Id
  principalId : Id
  agentId : Option Id
  deriving Repr, DecidableEq

/-! ## Mandates -/

/-- The signed fields of a mandate, as `mandate_payload` builds them. -/
structure MandatePayload where
  v : Nat
  principalId : Id
  agentId : Id
  parentMandateId : Option Id
  spendLimitCents : Cents
  maxCallCents : Cents
  maxCalls : Option Int
  tools : Option (List String)
  servers : Option (List String)
  expiresAt : Option Datetime
  maxSubagentBudgetCents : Option Cents
  nonce : String
  deriving Repr, DecidableEq

/-- `mandates`. -/
structure Mandate where
  id : Id
  principalId : Id
  agentId : Id
  parentMandateId : Option Id
  spendLimitCents : Cents
  remainingCents : Cents
  maxCallCents : Cents
  maxCalls : Option Int
  callsUsed : Int
  toolsJson : Option (List String)
  serversJson : Option (List String)
  expiresAt : Option Datetime
  maxSubagentBudgetCents : Option Cents
  nonce : String
  signature : String
  pubkeyHex : String
  payloadJson : MandatePayload
  revoked : Bool
  deriving Repr, DecidableEq

namespace Mandate

/-- `None` is unrestricted; the stored text of a list is never empty. -/
def toolsList (mandate : Mandate) : Option (List String) :=
  mandate.toolsJson

/-- The server allow-list, read like `toolsList`. -/
def serversList (mandate : Mandate) : Option (List String) :=
  mandate.serversJson

end Mandate

/-! ## The ledger -/

/-- `ledger_events.kind`. -/
inductive EventKind where
  | reserve
  | commit
  | release
  | deny
  | escrow
  deriving Repr, DecidableEq

/-- `ledger_events.note`: a reason, or the child of an escrow. -/
inductive Note where
  | reason (reason : Reason)
  | child (mandate : Id)
  deriving Repr, DecidableEq

/-- `ledger_events`. -/
structure LedgerEvent where
  principalId : Id
  mandateId : Id
  reservationId : Option Id
  taskId : Option Id
  kind : EventKind
  amountCents : Cents
  remainingAfter : Option Cents
  idempotencyKey : Option String
  note : Option Note
  deriving Repr, DecidableEq

/-- `reservations.status`. -/
inductive ReservationStatus where
  | held
  | committed
  | released
  deriving Repr, DecidableEq

/-- `reservations`. -/
structure Reservation where
  id : Id
  principalId : Id
  mandateId : Id
  amountCents : Cents
  status : ReservationStatus
  idempotencyKey : Option String
  nonce : Option String
  deriving Repr, DecidableEq

/-- `invocations.status`. -/
inductive InvocationStatus where
  | reserved
  | executing
  | executedOk
  | executedFail
  | committed
  | released
  | ambiguous
  | reconciledCommitted
  | reconciledReleased
  deriving Repr, DecidableEq

/-- The column text of a status. -/
def InvocationStatus.text : InvocationStatus → String
  | .reserved => "reserved"
  | .executing => "executing"
  | .executedOk => "executed_ok"
  | .executedFail => "executed_fail"
  | .committed => "committed"
  | .released => "released"
  | .ambiguous => "ambiguous"
  | .reconciledCommitted => "reconciled_committed"
  | .reconciledReleased => "reconciled_released"

/-- `invocations`, the execution attempts. -/
structure Invocation where
  id : Id
  principalId : Id
  mandateId : Id
  reservationId : Option Id
  taskId : Option Id
  tool : String
  server : String
  requestHash : Option String
  idempotencyKey : Option String
  amountCents : Cents
  status : InvocationStatus
  deriving Repr, DecidableEq

/-! ## Receipts and billing -/

/-- The signed body of a receipt. -/
structure ReceiptBody where
  v : Nat
  id : Id
  agentId : Option Id
  taskId : Option Id
  mandateId : Id
  tool : String
  server : String
  amountCents : Cents
  outcome : String
  reservationId : Option Id
  requestHash : String
  responseHash : String
  kid : String
  issuedAt : Datetime
  result : Option JsonText
  deriving Repr, DecidableEq

/-- `receipts`. -/
structure Receipt where
  id : Id
  principalId : Id
  mandateId : Id
  agentId : Option Id
  taskId : Option Id
  reservationId : Option Id
  tool : String
  server : String
  amountCents : Cents
  bodyJson : ReceiptBody
  signature : String
  pubkeyHex : String
  createdAt : Datetime
  deriving Repr, DecidableEq

/-- What `receipts.to_dict` shows of a receipt. -/
structure ReceiptDict where
  id : Id
  principalId : Id
  mandateId : Id
  agentId : Option Id
  taskId : Option Id
  reservationId : Option Id
  tool : String
  server : String
  amountCents : Cents
  body : ReceiptBody
  signature : String
  pubkeyHex : String
  kid : String
  createdAt : Datetime
  deriving Repr, DecidableEq

/-- `billing_outbox.status`. -/
inductive OutboxStatus where
  | pending
  | sending
  | sent
  | failed
  | noop
  | dead
  deriving Repr, DecidableEq

/-- The payload `enqueue` stores. -/
structure OutboxPayload where
  receiptId : Id
  amountCents : Cents
  principalId : Id
  customerId : Option String
  feeBps : Int
  platformFeeInvoiceCents : Int
  deriving Repr, DecidableEq

/-- `billing_outbox`. -/
structure Outbox where
  id : Id
  payloadJson : OutboxPayload
  status : OutboxStatus
  attempts : Nat
  nextAttemptAt : Option Int
  lastError : Option String
  receiptId : Id
  claimedAt : Option Int
  deriving Repr, DecidableEq

/-! ## Logical operations, nonces and evidence -/

/-- `lifecycle.InvokeResult`, also the value a completed claim stores. -/
structure InvokeResult where
  ok : Bool
  reason : Option Reason := none
  detail : String := ""
  amountCents : Cents := 0
  remainingCents : Option Cents := none
  receipt : Option ReceiptDict := none
  result : Option JsonText := none
  reservationId : Option Id := none
  idempotencyKey : Option String := none
  replayed : Bool := false
  taskId : Option Id := none
  deriving Repr, DecidableEq

/-- `idempotency_records.status`. -/
inductive ClaimStatus where
  | inProgress
  | completed
  deriving Repr, DecidableEq

/-- `idempotency_records`, the logical operations. -/
structure IdempotencyRecord where
  principalId : Id
  idempotencyKey : String
  requestHash : Option String
  status : ClaimStatus
  resultJson : Option InvokeResult
  deriving Repr, DecidableEq

/-- `used_nonces`. -/
structure UsedNonce where
  principalId : Id
  nonce : String
  deriving Repr, DecidableEq

/-- The evidence kinds that reconciliation accepts. -/
inductive EvidenceKind where
  | didExecute
  | didNotExecute
  deriving Repr, DecidableEq

/-- `reconciliation_events`. -/
structure ReconciliationEvent where
  invocationId : Id
  fromStatus : InvocationStatus
  toStatus : InvocationStatus
  actor : String
  evidenceRef : String
  evidenceKind : EvidenceKind
  deriving Repr, DecidableEq

/-! ## The database -/

instance : Keyed Account Id := ⟨Account.id⟩
instance : Keyed Principal Id := ⟨Principal.id⟩
instance : Keyed Agent Id := ⟨Agent.id⟩
instance : Keyed Task Id := ⟨Task.id⟩
instance : Keyed Mandate Id := ⟨Mandate.id⟩
instance : Keyed Reservation Id := ⟨Reservation.id⟩
instance : Keyed Invocation Id := ⟨Invocation.id⟩
instance : Keyed Receipt Id := ⟨Receipt.id⟩
instance : Keyed Outbox Id := ⟨Outbox.id⟩

/-- Claims are unique per principal and key. -/
instance : Keyed IdempotencyRecord (Id × String) :=
  ⟨fun record => (record.principalId, record.idempotencyKey)⟩

/-- Nonces are unique per principal. -/
instance : Keyed UsedNonce (Id × String) :=
  ⟨fun used => (used.principalId, used.nonce)⟩

@[simp] theorem key_account (row : Account) : Keyed.key row = row.id := rfl
@[simp] theorem key_principal (row : Principal) : Keyed.key row = row.id := rfl
@[simp] theorem key_agent (row : Agent) : Keyed.key row = row.id := rfl
@[simp] theorem key_task (row : Task) : Keyed.key row = row.id := rfl
@[simp] theorem key_mandate (row : Mandate) : Keyed.key row = row.id := rfl
@[simp] theorem key_reservation (row : Reservation) :
    Keyed.key row = row.id := rfl
@[simp] theorem key_invocation (row : Invocation) :
    Keyed.key row = row.id := rfl
@[simp] theorem key_receipt (row : Receipt) : Keyed.key row = row.id := rfl
@[simp] theorem key_outbox (row : Outbox) : Keyed.key row = row.id := rfl
@[simp] theorem key_idempotencyRecord (row : IdempotencyRecord) :
    Keyed.key row = (row.principalId, row.idempotencyKey) := rfl
@[simp] theorem key_usedNonce (row : UsedNonce) :
    Keyed.key row = (row.principalId, row.nonce) := rfl

/-- All tables.  Ledger and reconciliation events are append-only. -/
structure Db where
  accounts : Table Account
  principals : Table Principal
  agents : Table Agent
  tasks : Table Task
  mandates : Table Mandate
  ledgerEvents : List LedgerEvent
  reservations : Table Reservation
  receipts : Table Receipt
  billingOutbox : Table Outbox
  idempotencyRecords : Table IdempotencyRecord
  usedNonces : Table UsedNonce
  invocations : Table Invocation
  reconciliationEvents : List ReconciliationEvent

/-- The schema without rows. -/
def Db.empty : Db where
  accounts := .empty
  principals := .empty
  agents := .empty
  tasks := .empty
  mandates := .empty
  ledgerEvents := []
  reservations := .empty
  receipts := .empty
  billingOutbox := .empty
  idempotencyRecords := .empty
  usedNonces := .empty
  invocations := .empty
  reconciliationEvents := []

/-! ## Exceptions and the environment -/

/-- `PolicyDenied`. -/
structure Denied where
  reason : Reason
  detail : String
  deriving Repr, DecidableEq

/--
The exceptions that leave a modelled function.  `unfinished` is not one of the
source's: it marks a loop that is still running, so its transaction has not
reached its end.
-/
inductive Raised where
  | policyDenied (denied : Denied)
  | idempotencyReplay (record : IdempotencyRecord)
  | finalizeLost
  | integrityError
  | notFound
  | badRequest
  | unfinished
  deriving Repr, DecidableEq

/--
What the process takes from outside the database: the issuer key and its
signature scheme, the payload hash, the text of a datetime and of the result of
a reconciliation, the environment variables the modelled functions read, and
the argument schema check.
-/
structure Env where
  issuerPubkey : String
  signObj : MandatePayload → String
  verifyObj : MandatePayload → String → String → Bool
  signReceipt : ReceiptBody → String
  keyId : String
  hashRequest : Id → String → String → JsonText → String
  hashTarget : Id → String → String → String
  hashResult : JsonText → String
  isoformat : Datetime → String
  reconciledResult : String → JsonText
  retainPayloads : Bool
  stripeConfigured : Bool
  feeBps : Nat
  validateArguments : String → JsonText → Except Denied Unit

end Crossing

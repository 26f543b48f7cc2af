import Crossing.Identity

namespace Crossing

open Relational
open Relational.Transaction

/-!
# Billing

The parts of `billing.py` that write inside ledger transactions (the customer
check, the platform fee and the outbox row), and the transactions of the outbox
drain: the claim before the request to Stripe and the result after it.
-/

/-- `UNPAID_STATUSES`. -/
def unpaidStatuses : List String :=
  ["unpaid", "canceled", "cancelled", "incomplete_expired"]

/-- `MAX_ATTEMPTS`. -/
def maxAttempts : Nat := 8

/-- `_account_for_principal`. -/
def accountForPrincipal (view : Db) (principalId : Id) : Option Account :=
  (view.principals.find principalId).bind fun principal =>
    view.accounts.find principal.accountId

/-- `is_billable`: with a Stripe key, paid work needs a live customer. -/
def isBillable (env : Env) (account : Option Account) : Bool :=
  if env.stripeConfigured then
    match account with
    | none => false
    | some account =>
        strip (account.stripeCustomerId.getD "") ≠ "" &&
          (strip (account.stripeStatus.getD "")).toLower ∉ unpaidStatuses
  else
    true

/-- `require_billable`. -/
def requireBillable
    (env : Env)
    (view : Db)
    (principalId : Id) :
    Except Denied Unit :=
  denyWhen
    (isBillable env (accountForPrincipal view principalId) = false)
    .billingRequired "stripe customer required for paid work"

/-- `fee_microcents_for`: integer microcents. -/
def feeMicrocentsFor (env : Env) (amountCents : Cents) : Int :=
  if amountCents < 0 then 0 else amountCents * env.feeBps * 100

/-- `apply_platform_fee`: accumulate microcents, never invoiced cents. -/
def applyPlatformFee
    (env : Env)
    (account : Account)
    (amountCents : Cents) :
    Body Unit := do
  let add := feeMicrocentsFor env amountCents
  if add ≤ 0 then
    pure ()
  else
    modify fun db =>
      { db with
        accounts := db.accounts.modify account.id fun row =>
          { row with feeMicrocents := row.feeMicrocents + add } }

/-- The row that `enqueue` inserts. -/
def pendingOutbox
    (env : Env)
    (account : Option Account)
    (receiptId : Id)
    (amountCents : Cents)
    (principalId newId : Id) :
    Outbox where
  id := newId
  payloadJson :=
    { receiptId := receiptId
      amountCents := amountCents
      principalId := principalId
      customerId := truthy (account.bind Account.stripeCustomerId)
      feeBps := env.feeBps
      platformFeeInvoiceCents := 0 }
  status := .pending
  attempts := 0
  nextAttemptAt := none
  lastError := none
  receiptId := receiptId
  claimedAt := none

/-- `enqueue`: one pending outbox row per receipt, then the platform fee. -/
def enqueue
    (env : Env)
    (receiptId : Id)
    (amountCents : Cents)
    (principalId newId : Id) :
    Body Outbox := do
  let db ← get
  match db.billingOutbox.rows.find? fun row => row.receiptId = receiptId with
  | some existing => pure existing
  | none => do
      let account := accountForPrincipal db principalId
      let row :=
        pendingOutbox env account receiptId amountCents principalId newId
      addRow Db.billingOutbox
        (fun db table => { db with billingOutbox := table }) row
      match account with
      | none => pure ()
      | some account => applyPlatformFee env account amountCents
      pure row

/-! ## Stripe fields of an account -/

/-- `attach_stripe_customer`; the customer id is unique among accounts. -/
def attachStripeCustomer
    (view : Db)
    (accountId : Id)
    (stripeCustomerId : String) :
    Body Unit := do
  let _ ← orRaise .notFound (view.accounts.find accountId)
  let db ← get
  raiseWhen
    (∃ row ∈ db.accounts.rows,
      row.id ≠ accountId ∧ row.stripeCustomerId = some stripeCustomerId)
    (denied ⟨.unauthorized,
      "stripe_customer_id already bound to another account"⟩)
  modify fun db =>
    { db with
      accounts := db.accounts.modify accountId fun row =>
        { row with stripeCustomerId := some stripeCustomerId } }

/-- `apply_stripe_event`, for an event that carries a customer and a status. -/
def applyStripeEvent
    (view : Db)
    (customerId status : String) :
    Body Unit :=
  match
    view.accounts.rows.find? fun row =>
      row.stripeCustomerId = some customerId
  with
  | none => pure ()
  | some account =>
      modify fun db =>
        { db with
          accounts := db.accounts.modify account.id fun row =>
            { row with stripeStatus := some status } }

/-! ## The drain -/

/-- What `post_stripe` reports, or the exception that replaced it. -/
inductive StripeResult where
  | noop
  | ok
  | failed (error : String)
  deriving Repr, DecidableEq

/-- `backoff_minutes`. -/
def backoffMinutes (attempts : Nat) : Nat :=
  min 60 (2 ^ (max 1 attempts - 1))

/-- Microseconds in a second, the unit of `Outbox` instants. -/
def microsPerSecond : Int := 1000000

/-- `_terminal_values`, applied to the row. -/
def terminalValues
    (now : Int)
    (attemptsAfter : Nat)
    (result : StripeResult)
    (row : Outbox) :
    Outbox :=
  match result with
  | .noop =>
      { row with
        attempts := attemptsAfter
        claimedAt := some now
        status := .noop
        lastError := none
        nextAttemptAt := none }
  | .ok =>
      { row with
        attempts := attemptsAfter
        claimedAt := some now
        status := .sent
        lastError := none
        nextAttemptAt := none }
  | .failed error =>
      if attemptsAfter ≥ maxAttempts then
        { row with
          attempts := attemptsAfter
          claimedAt := some now
          status := .dead
          lastError := some error
          nextAttemptAt := none }
      else
        { row with
          attempts := attemptsAfter
          claimedAt := some now
          status := .failed
          lastError := some error
          nextAttemptAt :=
            some (now + backoffMinutes attemptsAfter * 60 * microsPerSecond) }

/-- `_claimable_clause`. -/
def claimable (now stale : Int) (row : Outbox) : Bool :=
  let due :=
    match row.nextAttemptAt with
    | none => true
    | some instant => instant ≤ now
  let retryable :=
    row.status ∈ [OutboxStatus.pending, .failed] &&
      due && row.attempts < maxAttempts
  let reclaim :=
    row.status = .sending &&
      match row.claimedAt with
      | none => true
      | some instant => instant ≤ stale
  retryable || reclaim

/-- One claiming UPDATE per selected row. -/
def claimEach (now stale : Int) : List Id → Body (List Id)
  | [] => pure []
  | oid :: rest => do
      let claimed ←
        updateRow Db.billingOutbox
          (fun db table => { db with billingOutbox := table })
          oid (claimable now stale)
          (fun row => { row with status := .sending, claimedAt := some now })
      let others ← claimEach now stale rest
      pure (claimed.elim others fun _ => oid :: others)

/-- `_claim_outbox_rows`. -/
def claimOutboxRows
    (view : Db)
    (now leaseSeconds : Int)
    (limit : Nat) :
    Body (List Id) :=
  let stale := now - leaseSeconds * microsPerSecond
  let ids :=
    ((view.billingOutbox.rows.filter (claimable now stale)).take limit).map
      Outbox.id
  claimEach now stale ids

/-- `_cas_terminal_from_sending`; `seen` is the row the session loaded. -/
def casTerminalFromSending
    (now : Int)
    (seen : Outbox)
    (result : StripeResult) :
    Body (Option Outbox) :=
  if seen.status = .sending then
    updateRow Db.billingOutbox
      (fun db table => { db with billingOutbox := table })
      seen.id (fun row => row.status = .sending)
      (terminalValues now (seen.attempts + 1) result)
  else
    pure none

/-- The flush of `requeue_dead` on the loaded dead rows. -/
def requeueEach (now : Int) (outbox : Table Outbox) : List Id → Table Outbox
  | [] => outbox
  | oid :: rest =>
      requeueEach now
        (outbox.modify oid fun row =>
          { row with
            status := .pending
            attempts := 0
            nextAttemptAt := some now
            claimedAt := none })
        rest

/-- `requeue_dead`. -/
def requeueDead
    (view : Db)
    (now : Int)
    (outboxId : Option Id) :
    Body (List Id) := do
  let ids :=
    (view.billingOutbox.rows.filter fun row =>
      row.status = .dead && outboxId.all (· = row.id)).map Outbox.id
  modify fun db =>
    { db with billingOutbox := requeueEach now db.billingOutbox ids }
  pure ids

end Crossing

import Crossing.Lifecycle

namespace Crossing

open Relational
open Relational.Transaction

/-!
# Reconciliation over the API

`post_reconcile` of `api.py`: it loads the attempt, checks the customer, and
calls the ledger with callbacks that bill the attempt as it was reserved.
-/

/-- The request body of `POST /v1/invocations/…/reconcile`. -/
structure ReconcileIn where
  outcome : String
  evidenceRef : String
  evidenceKind : String
  deriving Repr, DecidableEq

/-- `receipt_fn` and `billing_fn` of `post_reconcile`; it passes no result. -/
def reconcileCallbacks
    (env : Env)
    (invocation : Invocation)
    (evidenceRef : String)
    (draw : FinishDraw) :
    FinalizeCallbacks where
  receiptFn := some
    { principalId := invocation.principalId
      mandateId := invocation.mandateId
      reservationId := invocation.reservationId
      tool := invocation.tool
      server := invocation.server
      amountCents := invocation.amountCents
      result := env.reconciledResult evidenceRef
      requestHash := invocation.requestHash
      outcome := "reconciled_committed"
      newId := draw.newReceiptId
      issuedAt := draw.issuedAt
      createdAt := draw.createdAt }
  billingFn := some
    { amountCents := invocation.amountCents
      principalId := invocation.principalId
      newId := draw.newOutboxId }

/--
`post_reconcile`.  `mayAct` is the authorisation of the caller for the
principal of the attempt.
-/
def postReconcile
    (env : Env)
    (views : Views)
    (actor : String)
    (mayAct : Id → Bool)
    (invocationId : Id)
    (body : ReconcileIn)
    (draw : FinishDraw) :
    Body (Option ReconciliationEvent) := do
  let invocation ←
    orRaise .notFound ((views 0).invocations.find invocationId)
  raiseWhen (mayAct invocation.principalId = false) .notFound
  ofExcept denied
    (if body.outcome = "committed" ∧ env.stripeConfigured = true then
      requireBillable env (views 1) invocation.principalId
    else
      .ok ())
  let evidence : Evidence :=
    { actor := actor
      evidenceRef := body.evidenceRef
      evidenceKind := body.evidenceKind }
  if body.outcome = "committed" then
    reconcileCommit env (views.after 2) (views 3).mandates.find invocation
      evidence
      (reconcileCallbacks env invocation body.evidenceRef draw)
  else if body.outcome = "released" then
    reconcileRelease (views.after 2) invocation evidence
  else
    throw .badRequest

end Crossing

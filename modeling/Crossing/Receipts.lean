import Crossing.Identity

namespace Crossing

open Relational
open Relational.Transaction

/-!
# Receipts

`issue` and `to_dict` of `receipts.py`.
-/

/-- The keyword arguments of `receipts.issue`, with the values it draws. -/
structure ReceiptArgs where
  principalId : Id
  mandateId : Id
  reservationId : Option Id
  tool : String
  server : String
  amountCents : Cents
  result : JsonText
  agentId : Option Id := none
  taskId : Option Id := none
  requestHash : Option String := none
  outcome : String := "ok"
  newId : Id
  issuedAt : Datetime
  createdAt : Datetime
  deriving Repr, DecidableEq

/-- The body that `issue` signs. -/
def receiptBody (env : Env) (args : ReceiptArgs) : ReceiptBody where
  v := 1
  id := args.newId
  agentId := args.agentId
  taskId := args.taskId
  mandateId := args.mandateId
  tool := args.tool
  server := args.server
  amountCents := args.amountCents
  outcome := args.outcome
  reservationId := args.reservationId
  requestHash :=
    (truthy args.requestHash).getD
      (env.hashTarget args.mandateId args.server args.tool)
  responseHash := env.hashResult args.result
  kid := env.keyId
  issuedAt := args.issuedAt
  result := if env.retainPayloads then some args.result else none

/-- The row that `issue` inserts. -/
def issuedReceipt (env : Env) (args : ReceiptArgs) : Receipt where
  id := args.newId
  principalId := args.principalId
  mandateId := args.mandateId
  agentId := args.agentId
  taskId := args.taskId
  reservationId := args.reservationId
  tool := args.tool
  server := args.server
  amountCents := args.amountCents
  bodyJson := receiptBody env args
  signature := env.signReceipt (receiptBody env args)
  pubkeyHex := env.issuerPubkey
  createdAt := args.createdAt

/-- `issue`. -/
def issue (env : Env) (args : ReceiptArgs) : Body Receipt := do
  -- The unique constraint of `receipts.reservation_id`; nulls are distinct.
  let db ← get
  raiseWhen
    (∃ reservation ∈ args.reservationId,
      ∃ row ∈ db.receipts.rows, row.reservationId = some reservation)
    .integrityError
  let receipt := issuedReceipt env args
  addRow Db.receipts (fun db table => { db with receipts := table }) receipt
  pure receipt

/-- `to_dict`. -/
def Receipt.toDict (receipt : Receipt) : ReceiptDict where
  id := receipt.id
  principalId := receipt.principalId
  mandateId := receipt.mandateId
  agentId := receipt.agentId
  taskId := receipt.taskId
  reservationId := receipt.reservationId
  tool := receipt.tool
  server := receipt.server
  amountCents := receipt.amountCents
  body := receipt.bodyJson
  signature := receipt.signature
  pubkeyHex := receipt.pubkeyHex
  kid := receipt.bodyJson.kid
  createdAt := receipt.createdAt

end Crossing

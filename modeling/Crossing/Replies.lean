import Crossing.Routes

namespace Crossing

open Relational
open Relational.Transaction

/-!
# What a caller learns

The requests of a tenant that name ids, each handled alone on a state of the
database from the request to the response, and the status and the reason that
the response carries.
-/

/-- The status of a response, and the reason in its detail. -/
structure Reply where
  status : Nat
  reason : Option Reason
  deriving Repr, DecidableEq

namespace Reply

/-- A response with a body. -/
def ok : Reply := ⟨200, none⟩

/-- The response to an `HTTPException`. -/
def ofError (error : HttpError) : Reply := ⟨error.status, error.reason⟩

/-- The response of a handler. -/
def of {α : Type} : Except HttpError α → Reply
  | .ok _ => .ok
  | .error refusal => .ofError refusal

/-- The response to what a handler returns or raises. -/
def ofOutcome
    {α : Type}
    (deniedStatus : Option Nat) :
    Except Raised α → Reply
  | .ok _ => .ok
  | .error exception => .ofError (exception.response deniedStatus)

/-- The response of `post_invoke` to a result. -/
def ofResult (result : InvokeResult) : Reply :=
  if result.ok then .ok else ⟨403, result.reason⟩

end Reply

/-- `get_mandate`. -/
def getMandate (views : Views) (ctx : AuthContext) (mandateId : Id) :
    Body Mandate :=
  ownMandate views ctx mandateId

/-- `list_receipts`. -/
def listReceipts (views : Views) (ctx : AuthContext) : Body (List Receipt) :=
  if ctx.isAdmin then
    pure (views 0).receipts.rows
  else
    let ids := principalIds (views 0) ctx
    pure ((views 1).receipts.rows.filter (·.principalId ∈ ids))

/-- `get_receipt`. -/
def getReceipt (views : Views) (ctx : AuthContext) (receiptId : Id) :
    Body Receipt := do
  let receipt ← orRaise .notFound ((views 0).receipts.find receiptId)
  raiseWhen
    (ctx.isAdmin = false ∧
      receipt.principalId ∉ principalIds (views 1) ctx)
    .notFound
  pure receipt

/-- `invoke` after its reservation, with what the provider does. -/
def Attempt.goOn
    (env : Env)
    (attempt : Attempt)
    (provider : Except String JsonText)
    (draw : FinishDraw)
    (db : Db) :
    Except Raised InvokeResult :=
  match exec (invokeMark attempt) db with
  | (.error exception, _) => .error exception
  | (.ok (some result), _) => .ok result
  | (.ok none, marked) =>
      match provider with
      | .error error => (exec (invokeFail attempt error) marked).1
      | .ok toolResult =>
          (exec (invokeFinish env attempt toolResult draw) marked).1

/-- The requests that name ids. -/
inductive Query where
  | postAgent (principalId : Id) (parentId : Option Id) (newId : Id)
  | postMandate
      (now debitNow : Datetime)
      (body : IssueMandate)
      (newId : Id)
      (freshNonce : String)
  | getMandate (mandateId : Id)
  | postInvoke
      (limited : Bool)
      (request : InvokeRequest)
      (draw : InvokeDraw)
      (provider : Except String JsonText)
      (finish : FinishDraw)
  | listReceipts
  | getReceipt (receiptId : Id)

namespace Query

/-- The reply of a handler that only reads. -/
def readReply {α : Type} (ctx : AuthContext) (body : Body α) (db : Db) :
    Reply :=
  match Route.requireScope ctx "read" with
  | .error refusal => .ofError refusal
  | .ok () => .ofOutcome none (exec body db).1

/-- The reply to a request that is handled alone. -/
def reply (env : Env) (ctx : AuthContext) (db : Db) : Query → Reply
  | .postAgent principalId parentId newId =>
      .of
        (Route.respond env (fun _ => db) ctx
          (.postAgent principalId parentId newId) db).1
  | .postMandate now debitNow body newId freshNonce =>
      .of
        (Route.respond env (fun _ => db) ctx
          (.postMandate now debitNow body newId freshNonce) db).1
  | .getMandate mandateId =>
      readReply ctx (Crossing.getMandate (fun _ => db) ctx mandateId) db
  | .postInvoke limited request draw provider finish =>
      match
        Route.respond env (fun _ => db) ctx
          (.postInvoke limited request draw) db
      with
      | (.error refusal, _) => .ofError refusal
      | (.ok (.begun _ (.answered result)), _) => .ofResult result
      | (.ok (.begun _ (.reserved attempt)), begun) =>
          match attempt.goOn env provider finish begun with
          | .ok result => .ofResult result
          | .error exception => .ofError (exception.response (some 403))
      | (.ok .returned, _) => .ok
  | .listReceipts =>
      readReply ctx (Crossing.listReceipts (fun _ => db) ctx) db
  | .getReceipt receiptId =>
      readReply ctx (Crossing.getReceipt (fun _ => db) ctx receiptId) db

/-- The ids that are drawn for a request. -/
def draws : Query → List Id
  | .postAgent _ _ newId => [newId]
  | .postMandate _ _ _ newId _ => [newId]
  | .postInvoke _ _ draw _ finish =>
      [draw.newTaskId, draw.newReservationId, draw.newInvocationId,
        finish.newReceiptId, finish.newOutboxId]
  | _ => []

/-- The nonces of mandates that a request issues. -/
def nonces : Query → List String
  | .postMandate _ _ body _ freshNonce =>
      [(truthy body.nonce).getD freshNonce]
  | _ => []

end Query

end Crossing

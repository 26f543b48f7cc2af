import Crossing.ApiKeys
import Crossing.Lifecycle

namespace Crossing

open Relational
open Relational.Transaction

/-!
# The routes of a tenant

The handlers of `api.py` that customers call.  A handler checks the scope of
its caller, then opens one transaction in which it checks that the resource
belongs to the account of the caller and runs the operation.  An object that
the handler has loaded is not read again by the operation: `session.get`
answers with the object of the session.
-/

/-! ## Errors -/

/-- An `HTTPException`: its status, and the reason in its detail. -/
structure HttpError where
  status : Nat
  reason : Option Reason
  deriving Repr, DecidableEq

namespace HttpError

/-- `_closed`. -/
def closed : HttpError := ⟨404, none⟩

/-- `_forbidden`. -/
def forbidden : HttpError := ⟨403, some .unauthorized⟩

/-- An exception that no handler catches. -/
def internal : HttpError := ⟨500, none⟩

/-- A request body that does not validate. -/
def invalid : HttpError := ⟨422, none⟩

end HttpError

/--
The response to an exception.  A handler answers `PolicyDenied` with a status,
or does not catch it.
-/
def Raised.response (deniedStatus : Option Nat) : Raised → HttpError
  | .policyDenied outcome =>
      match deniedStatus with
      | some status => ⟨status, some outcome.reason⟩
      | none => .internal
  | .notFound => .closed
  | _ => .internal

/-! ## Ownership -/

/-- `_own_principal`. -/
def ownPrincipal
    (view : Db)
    (ctx : AuthContext)
    (principalId : Id) :
    Body Principal := do
  let principal ←
    orRaise .notFound (view.principals.find principalId)
  raiseWhen
    (ctx.isAdmin = false ∧ principal.accountId ≠ ctx.accountId)
    .notFound
  pure principal

/-- `_principal_ids`. -/
def principalIds (view : Db) (ctx : AuthContext) : List Id :=
  (view.principals.rows.filter (·.accountId = ctx.accountId)).map
    Principal.id

/-- `_own_mandate`. -/
def ownMandate
    (views : Views)
    (ctx : AuthContext)
    (mandateId : Id) :
    Body Mandate := do
  let mandate ←
    orRaise .notFound ((views 0).mandates.find mandateId)
  raiseWhen
    (ctx.isAdmin = false ∧
      mandate.principalId ∉ principalIds (views 1) ctx)
    .notFound
  pure mandate

/-! ## Handlers -/

/-- `post_principal`: a customer account has one principal. -/
def postPrincipal
    (views : Views)
    (ctx : AuthContext)
    (pubkeyHex : Option String)
    (newAccountId newId : Id) :
    Body Id :=
  if ctx.isAdmin then
    Principal.id <$> createPrincipal pubkeyHex none newAccountId newId
  else
    match
      (views 0).principals.rows.find? (·.accountId = ctx.accountId)
    with
    | some existing => pure existing.id
    | none =>
        Principal.id <$>
          createPrincipal pubkeyHex (some ctx.accountId) newAccountId newId

/-- `post_agent`. -/
def postAgent
    (views : Views)
    (ctx : AuthContext)
    (principalId : Id)
    (parentId : Option Id)
    (newId : Id) :
    Body Agent := do
  let _ ← ownPrincipal (views 0) ctx principalId
  createAgent (views.after 1) principalId parentId newId

/-- The views of an operation whose first object the handler has loaded. -/
def Views.reusing (views : Views) (between : Nat) : Views
  | 0 => views 0
  | statement + 1 => views (statement + 1 + between)

/-- `post_revoke`. -/
def postRevoke
    (views : Views)
    (ctx : AuthContext)
    (fuel : Nat)
    (agentId : Id) :
    Body (List Id) := do
  let agent ← orRaise .notFound ((views 0).agents.find agentId)
  let _ ← ownPrincipal (views 1) ctx agent.principalId
  revokeAgent (views.reusing 1) fuel agentId

/-- `post_mandate`; its body has no `verify`, so the default applies. -/
def postMandate
    (env : Env)
    (views : Views)
    (ctx : AuthContext)
    (now debitNow : Datetime)
    (body : IssueMandate)
    (newId : Id)
    (freshNonce : String) :
    Body Mandate := do
  let _ ← ownPrincipal (views 0) ctx body.principalId
  issueMandate env (views.after 1) now debitNow { body with verify := true }
    newId freshNonce

/-- `post_mandate_revoke`. -/
def postMandateRevoke
    (views : Views)
    (ctx : AuthContext)
    (mandateId : Id) :
    Body Unit := do
  let _ ← ownMandate views ctx mandateId
  revokeMandate views mandateId

/-- The deny event of `post_invoke`, on the mandate that was loaded. -/
def recordInvokeDenial
    (mandate : Mandate)
    (request : InvokeRequest)
    (outcome : Denied) :
    Body Begun := do
  appendEvent
    { principalId := mandate.principalId
      mandateId := mandate.id
      reservationId := none
      taskId := request.taskId
      kind := .deny
      amountCents := 0
      remainingAfter := none
      idempotencyKey := none
      note := some (.reason outcome.reason) }
  pure
    (.answered
      { ok := false
        reason := some outcome.reason
        detail := outcome.detail })

/-- `post_invoke` up to the reservation; a denial is committed. -/
def postInvoke
    (env : Env)
    (views : Views)
    (ctx : AuthContext)
    (request : InvokeRequest)
    (draw : InvokeDraw) :
    Body Begun := do
  let mandate ← ownMandate views ctx request.mandateId
  -- `invoke` is answered with the mandate and the principal of the session.
  tryCatch (invokeBegin env views request draw) fun
    | .policyDenied outcome => recordInvokeDenial mandate request outcome
    | exception => throw exception

/-- The routes that write to the database. -/
inductive Route where
  | postPrincipal
      (pubkeyHex : Option String)
      (newAccountId newId : Id)
  | postAgent (principalId : Id) (parentId : Option Id) (newId : Id)
  | postRevoke (fuel : Nat) (agentId : Id)
  | postMandate
      (now debitNow : Datetime)
      (body : IssueMandate)
      (newId : Id)
      (freshNonce : String)
  | postMandateRevoke (mandateId : Id)
  | postInvoke (limited : Bool) (request : InvokeRequest) (draw : InvokeDraw)

/-- What a handler returns: a row, or where its `invoke` call stands. -/
inductive RouteAnswer where
  | returned
  | begun (request : InvokeRequest) (outcome : Begun)
  deriving Repr, DecidableEq

namespace Route

/-- `require_scope`. -/
def requireScope (ctx : AuthContext) (scope : String) :
    Except HttpError Unit :=
  if ctx.hasScope scope then .ok () else .error .forbidden

/-- `require_write`. -/
def requireWrite (ctx : AuthContext) : Except HttpError Unit :=
  if ctx.hasScope "write" ∨ ctx.hasScope "mandate:issue" then
    .ok ()
  else
    .error .forbidden

/-- `Field(ge=0)` of `MandateIn`. -/
def validMandate (body : IssueMandate) : Bool :=
  0 ≤ body.spendLimitCents && body.maxCallCents.all (0 ≤ ·) &&
    body.maxSubagentBudgetCents.all (0 ≤ ·)

/-- What is checked before the transaction opens. -/
def admitted (ctx : AuthContext) : Route → Except HttpError Unit
  | .postPrincipal .. => requireWrite ctx
  | .postAgent .. => requireWrite ctx
  | .postRevoke .. => requireWrite ctx
  | .postMandate _ _ body _ _ => do
      requireScope ctx "mandate:issue"
      if validMandate body then .ok () else .error .invalid
  | .postMandateRevoke _ => requireScope ctx "mandate:revoke"
  | .postInvoke limited _ _ => do
      requireScope ctx "invoke"
      if limited then .error ⟨429, some .rateLimited⟩ else .ok ()

/-- The status that answers a `PolicyDenied`, where one is caught. -/
def deniedStatus : Route → Option Nat
  | .postAgent .. => some 400
  | .postMandate .. => some 400
  | .postInvoke .. => some 403
  | _ => none

/-- The transaction of a handler. -/
def body (env : Env) (views : Views) (ctx : AuthContext) :
    Route → Body RouteAnswer
  | .postPrincipal pubkeyHex newAccountId newId =>
      (fun _ => .returned) <$>
        Crossing.postPrincipal views ctx pubkeyHex newAccountId newId
  | .postAgent principalId parentId newId =>
      (fun _ => .returned) <$>
        Crossing.postAgent views ctx principalId parentId newId
  | .postRevoke fuel agentId =>
      (fun _ => .returned) <$> Crossing.postRevoke views ctx fuel agentId
  | .postMandate now debitNow body newId freshNonce =>
      (fun _ => .returned) <$>
        Crossing.postMandate env views ctx now debitNow body newId freshNonce
  | .postMandateRevoke mandateId =>
      (fun _ => .returned) <$>
        Crossing.postMandateRevoke views ctx mandateId
  | .postInvoke _ request draw =>
      .begun request <$> Crossing.postInvoke env views ctx request draw

/-- The response of a handler, with the state of the database after it. -/
def respond
    (env : Env)
    (views : Views)
    (ctx : AuthContext)
    (route : Route)
    (db : Db) :
    Except HttpError RouteAnswer × Db :=
  match route.admitted ctx with
  | .error refusal => (.error refusal, db)
  | .ok () =>
      match exec (route.body env views ctx) db with
      | (.ok answer, db') => (.ok answer, db')
      | (.error exception, _) =>
          (.error (exception.response route.deniedStatus), db)

end Route

/-! ## Keys -/

/-- `_may_manage_key`. -/
def mayManageKey (ctx : AuthContext) (row : ApiKey) : Except HttpError Unit :=
  if ctx.isAdmin = false ∧ row.accountId ≠ ctx.accountId then
    .error .closed
  else if (row.kind = "admin" ∨ "admin" ∈ row.scopes) ∧
      ctx.isAdmin = false ∧ ctx.apiKeyId ≠ row.id then
    .error .forbidden
  else if ctx.apiKeyId = row.id ∨ ctx.isAdmin = true ∨
      ctx.hasScope "write" = true then
    .ok ()
  else
    .error .forbidden

/-- The routes that write to the table of keys. -/
inductive KeyRoute where
  | postKeyRotate (keyId : Id) (draw : KeyDraw)
  | postKeyRevoke (keyId : Id) (now : Datetime)

namespace KeyRoute

/-- The key that is named. -/
def keyId : KeyRoute → Id
  | .postKeyRotate keyId _ => keyId
  | .postKeyRevoke keyId _ => keyId

/-- The operation on the key. -/
def body (view : Db) (row : ApiKey) : KeyRoute → KeyBody Unit
  | .postKeyRotate _ draw => (fun _ => ()) <$> rotateApiKey view row draw
  | .postKeyRevoke _ now => revokeApiKey row now

/-- `post_key_rotate` and `post_key_revoke`. -/
def respond
    (view : Db)
    (ctx : AuthContext)
    (route : KeyRoute)
    (keys : Table ApiKey) :
    Except HttpError Unit × Table ApiKey :=
  match keys.find route.keyId with
  | none => (.error .closed, keys)
  | some row =>
      match mayManageKey ctx row with
      | .error refusal => (.error refusal, keys)
      | .ok () =>
          match exec (route.body view row) keys with
          | (.ok (), keys') => (.ok (), keys')
          | (.error exception, _) => (.error (exception.response none), keys)

end KeyRoute

end Crossing

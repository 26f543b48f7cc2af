import Crossing.Ledger

namespace Crossing

open Relational
open Relational.Transaction

/-!
# The lifecycle of an invocation

`invoke` of `lifecycle.py`, cut where it commits.  `invokeBegin` runs up to the
end of `reserve_and_commit`: it answers, or it leaves a reserved attempt.
`invokeMark` is the dispatch barrier.  The provider is called between the
transactions, and `invokeFail` or `invokeFinish` follows its outcome.
-/

/-- The keyword arguments of `invoke`. -/
structure InvokeRequest where
  mandateId : Id
  tool : String
  arguments : Option JsonText := none
  server : String := "mock"
  idempotencyKey : Option String := none
  nonce : Option String := none
  taskId : Option Id := none
  deriving Repr, DecidableEq

/-- `arguments or {}`. -/
def InvokeRequest.payload (request : InvokeRequest) : JsonText :=
  request.arguments.getD "\x7b\x7d"

/-- `request_fingerprint`. -/
def requestFingerprint (env : Env) (request : InvokeRequest) : String :=
  env.hashRequest request.mandateId request.server request.tool
    request.payload

/-- What a call takes from the clock, the price list and `new_id`. -/
structure InvokeDraw where
  now : Datetime
  debitNow : Datetime
  quoted : Except Denied Cents
  newTaskId : Id
  newReservationId : Id
  newInvocationId : Id

/-- What `invoke` holds in memory once its reservation is committed. -/
structure Attempt where
  request : InvokeRequest
  requestHash : String
  mandate : Mandate
  price : Cents
  taskId : Option Id
  reservation : Reservation
  invocation : Invocation
  deriving Repr, DecidableEq

/-- The outcome of the first transaction of `invoke`. -/
inductive Begun where
  | answered (result : InvokeResult)
  | reserved (attempt : Attempt)
  deriving Repr, DecidableEq

/-- The stored result of a claim, marked as a replay. -/
def replayOf (stored : InvokeResult) : InvokeResult :=
  { stored with replayed := true }

/-- `_load_idem`. -/
def loadIdem
    (view : Db)
    (principalId : Id)
    (key : Option String)
    (requestHash : String) :
    Except Denied (Option InvokeResult) :=
  match truthy key with
  | none => .ok none
  | some key =>
      match view.idempotencyRecords.find (principalId, key) with
      | none => .ok none
      | some row =>
          if ∃ stored ∈ truthy row.requestHash, stored ≠ requestHash then
            .error
              ⟨.idempotencyConflict, "same key, different request hash"⟩
          else
            match row.status, row.resultJson with
            | .completed, some stored => .ok (some (replayOf stored))
            | _, _ => .error ⟨.inProgress, "wait-or-conflict"⟩

/-- The deny event of `_deny`, written when the principal is known. -/
def recordDenial
    (principalId : Option Id)
    (mandateId : Id)
    (reason : Reason)
    (remaining : Option Cents)
    (idempotencyKey : Option String) :
    Body Unit :=
  match principalId with
  | none => pure ()
  | some principalId =>
      appendEvent
        { principalId := principalId
          mandateId := mandateId
          reservationId := none
          taskId := none
          kind := .deny
          amountCents := 0
          remainingAfter := remaining
          idempotencyKey := idempotencyKey
          note := some (.reason reason) }

/-- `_deny`, with the amount and the task at the defaults `invoke` uses. -/
def deny
    (principalId : Option Id)
    (mandateId : Id)
    (outcome : Denied)
    (remaining : Option Cents)
    (idempotencyKey : Option String) :
    Body InvokeResult := do
  recordDenial principalId mandateId outcome.reason remaining idempotencyKey
  pure
    { ok := false
      reason := some outcome.reason
      detail := outcome.detail
      remainingCents := remaining
      idempotencyKey := idempotencyKey }

/-- The nonce query of `invoke`, made when a nonce is given. -/
def nonceClash (view : Db) (principalId : Id) (nonce : Option String) : Bool :=
  (truthy nonce).any fun nonce =>
    (view.usedNonces.find (principalId, nonce)).isSome

/-- Quote, `check_tool`, `validate_arguments` and `require_billable`. -/
def checkedPrice
    (env : Env)
    (view : Db)
    (mandate : Mandate)
    (request : InvokeRequest)
    (quoted : Except Denied Cents) :
    Except Denied Cents := do
  let price ← quoted
  checkTool mandate request.tool request.server price
  env.validateArguments request.tool request.payload
  if env.stripeConfigured then
    requireBillable env view mandate.principalId
  else
    .ok ()
  .ok price

/-- `if nonce:` the row of the nonce. -/
def bookNonce (principalId : Id) (nonce : Option String) : Body Unit :=
  match truthy nonce with
  | none => pure ()
  | some nonce =>
      addRow Db.usedNonces (fun db table => { db with usedNonces := table })
        { principalId := principalId, nonce := nonce }

/-- `if task_id is None:` a task for this call. -/
def bookTask
    (mandate : Mandate)
    (taskId : Option Id)
    (newTaskId : Id) :
    Body Id :=
  match taskId with
  | some taskId => pure taskId
  | none =>
      Task.id <$>
        createTask mandate.principalId (some mandate.agentId) newTaskId

/--
The call of `reserve_and_commit` in `invoke`.  A replay and a denial are
answered, and what was written before them is committed with the answer.
-/
def reserveOrAnswer
    (view : Db)
    (mandate : Mandate)
    (price : Cents)
    (request : InvokeRequest)
    (requestHash : String)
    (taskId : Option Id)
    (draw : InvokeDraw) :
    Body Begun :=
  tryCatch
    (do
      let (reservation, invocation, mandate) ←
        reserveAndCommit view draw.debitNow mandate price
          request.idempotencyKey request.nonce request.tool request.server
          (some requestHash) taskId draw.newReservationId
          draw.newInvocationId
      pure
        (.reserved
          { request := request
            requestHash := requestHash
            mandate := mandate
            price := price
            taskId := taskId
            reservation := reservation
            invocation := invocation }))
    fun
      | .idempotencyReplay record =>
          pure
            (.answered (replayOf (record.resultJson.getD { ok := false })))
      | .policyDenied outcome => do
          let db ← get
          let remaining :=
            (db.mandates.find mandate.id).map Mandate.remainingCents
          pure
            (.answered
              { ok := false
                reason := some outcome.reason
                detail := outcome.detail
                amountCents := price
                remainingCents := remaining
                idempotencyKey := request.idempotencyKey
                taskId := taskId })
      | exception => throw exception

/-- `invoke` up to the commit in `reserve_and_commit`. -/
def invokeBegin
    (env : Env)
    (views : Views)
    (request : InvokeRequest)
    (draw : InvokeDraw) :
    Body Begun := do
  let requestHash := requestFingerprint env request
  match loadLiveMandate env views draw.now request.mandateId with
  | .error outcome => do
      let known := (views 0).mandates.find request.mandateId
      .answered <$>
        deny (known.map Mandate.principalId) request.mandateId outcome
          (known.map Mandate.remainingCents) request.idempotencyKey
  | .ok mandate =>
      match
        loadIdem (views 4) mandate.principalId request.idempotencyKey
          requestHash
      with
      | .error outcome =>
          if outcome.reason = .inProgress then
            pure
              (.answered
                { ok := false
                  reason := some outcome.reason
                  detail := outcome.detail
                  remainingCents := some mandate.remainingCents
                  idempotencyKey := request.idempotencyKey })
          else
            .answered <$>
              deny (some mandate.principalId) mandate.id outcome
                (some mandate.remainingCents) request.idempotencyKey
      | .ok (some cached) => pure (.answered cached)
      | .ok none =>
          if nonceClash (views 5) mandate.principalId request.nonce then
            .answered <$>
              deny (some mandate.principalId) mandate.id
                ⟨.nonceReplay, request.nonce.getD ""⟩
                (some mandate.remainingCents) request.idempotencyKey
          else
            match checkedPrice env (views 6) mandate request draw.quoted with
            | .error outcome =>
                .answered <$>
                  deny (some mandate.principalId) mandate.id outcome
                    (some mandate.remainingCents) request.idempotencyKey
            | .ok price => do
                bookNonce mandate.principalId request.nonce
                let taskId ← bookTask mandate request.taskId draw.newTaskId
                reserveOrAnswer (views 7) mandate price request requestHash
                  (some taskId) draw

/-- The answer of `invoke` to a failure after its reservation. -/
def Attempt.failure
    (attempt : Attempt)
    (reason : Reason)
    (detail : String) :
    InvokeResult where
  ok := false
  reason := some reason
  detail := detail
  amountCents := attempt.price
  remainingCents := some attempt.mandate.remainingCents
  reservationId := some attempt.reservation.id
  idempotencyKey := attempt.request.idempotencyKey
  taskId := attempt.taskId

/-- The dispatch barrier of `invoke`: an answer unless `mark_executing` won. -/
def invokeMark (attempt : Attempt) : Body (Option InvokeResult) := do
  let marked ← markExecuting attempt.invocation
  if marked.won then
    pure none
  else do
    let db ← get
    let refreshed ←
      orRaise .notFound (db.invocations.find attempt.invocation.id)
    pure
      (some
        (attempt.failure (marked.reason.getD .inProgress)
          s!"dispatch not started; status={refreshed.status.text}"))

/-- `invoke` after the provider raised: no refund, the claim stays. -/
def invokeFail (attempt : Attempt) (error : String) : Body InvokeResult := do
  let _ ← markExecutedFail attempt.invocation
  pure (attempt.failure .mcpError error)

/-- What the finalization takes from the clock and `new_id`. -/
structure FinishDraw where
  newReceiptId : Id
  newOutboxId : Id
  issuedAt : Datetime
  createdAt : Datetime
  deriving Repr, DecidableEq

/-- `_issue_receipt`, `_enqueue_billing` and `_result_payload` of `invoke`. -/
def Attempt.callbacks
    (attempt : Attempt)
    (toolResult : JsonText)
    (draw : FinishDraw) :
    FinalizeCallbacks where
  receiptFn := some
    { principalId := attempt.mandate.principalId
      mandateId := attempt.mandate.id
      reservationId := some attempt.reservation.id
      tool := attempt.request.tool
      server := attempt.request.server
      amountCents := attempt.price
      result := toolResult
      agentId := some attempt.mandate.agentId
      taskId := attempt.taskId
      requestHash := some attempt.requestHash
      outcome := "ok"
      newId := draw.newReceiptId
      issuedAt := draw.issuedAt
      createdAt := draw.createdAt }
  billingFn := some
    { amountCents := attempt.price
      principalId := attempt.mandate.principalId
      newId := draw.newOutboxId }
  resultFn := some
    { ok := true
      amountCents := attempt.price
      remainingCents := some attempt.mandate.remainingCents
      reservationId := some attempt.reservation.id
      idempotencyKey := attempt.request.idempotencyKey
      taskId := attempt.taskId }

/-- The session holds the mandate the call loaded. -/
def Attempt.sessionMandate (attempt : Attempt) (id : Id) : Option Mandate :=
  if id = attempt.mandate.id then some attempt.mandate else none

/-- The answer of `invoke` when its finalization won. -/
def Attempt.success
    (attempt : Attempt)
    (toolResult : JsonText)
    (receipt : Option Receipt) :
    InvokeResult where
  ok := true
  amountCents := attempt.price
  remainingCents := some attempt.mandate.remainingCents
  receipt := receipt.map Receipt.toDict
  result := some toolResult
  reservationId := some attempt.reservation.id
  idempotencyKey := attempt.request.idempotencyKey
  taskId := attempt.taskId

/-- `invoke` after the provider returned. -/
def invokeFinish
    (env : Env)
    (attempt : Attempt)
    (toolResult : JsonText)
    (draw : FinishDraw) :
    Body InvokeResult := do
  let finalized ←
    finalizeSuccess env attempt.sessionMandate attempt.reservation
      attempt.invocation (attempt.callbacks toolResult draw)
  if finalized.won then
    pure (attempt.success toolResult finalized.receipt)
  else
    pure (attempt.failure .finalizeLost "terminal transition lost")

end Crossing

import Crossing.Mandate
import Crossing.Billing
import Crossing.Receipts

namespace Crossing

open Relational
open Relational.Transaction

/-!
# The ledger

The functions of `ledger.py`: the atomic debit, the claim of a logical
operation, the compare-and-set transitions of attempts and reservations, and
the finalizers that join them.  A function that takes an in-memory object uses
it as the source does: its key and its immutable columns are those of the row,
while its status may be out of date.  After a compare-and-set that wins, the
refreshed row replaces the object.
-/

/-- `append_event`. -/
def appendEvent (event : LedgerEvent) : Body Unit :=
  modify fun db => { db with ledgerEvents := db.ledgerEvents ++ [event] }

/-- Replace the table of mandates. -/
abbrev storeMandates (db : Db) (table : Table Mandate) : Db :=
  { db with mandates := table }

/-- Replace the table of reservations. -/
abbrev storeReservations (db : Db) (table : Table Reservation) : Db :=
  { db with reservations := table }

/-- Replace the table of invocations. -/
abbrev storeInvocations (db : Db) (table : Table Invocation) : Db :=
  { db with invocations := table }

/-- Replace the table of claims. -/
abbrev storeClaims (db : Db) (table : Table IdempotencyRecord) : Db :=
  { db with idempotencyRecords := table }

/-! ## The debit -/

/-- The WHERE clause of the debit. -/
def debitGuard (now : Datetime) (amountCents : Cents) (row : Mandate) : Bool :=
  row.remainingCents ≥ amountCents && !row.revoked &&
    row.maxCalls.all (row.callsUsed < ·) && notExpired now row

/-- The SET clause of the debit. -/
def debited (amountCents : Cents) (row : Mandate) : Mandate :=
  { row with
    remainingCents := row.remainingCents - amountCents
    callsUsed := row.callsUsed + 1 }

/-- `_reserve_deny_reason`. -/
def reserveDenyReason
    (now : Datetime)
    (locked : Option Mandate)
    (amountCents : Cents) :
    Reason :=
  match locked with
  | none => .budgetExceeded
  | some locked =>
      if locked.revoked then
        .budgetExceeded
      else if ∃ expires ∈ locked.expiresAt.map asUtc,
          (asUtc now).wall > expires.wall then
        .mandateExpired
      else if locked.remainingCents < amountCents then
        .budgetExceeded
      else if ∃ maxCalls ∈ locked.maxCalls, locked.callsUsed ≥ maxCalls then
        .maxCallsExceeded
      else
        .budgetExceeded

/--
`reserve`.  The denial is explained from the object the session holds, which
`session.get` returns without reading the row again.  The refreshed mandate is
returned with the reservation.
-/
def reserve
    (now : Datetime)
    (mandate : Mandate)
    (amountCents : Cents)
    (idempotencyKey nonce : Option String)
    (taskId : Option Id)
    (recordDeny : Bool)
    (newId : Id) :
    Body (Reservation × Mandate) := do
  raiseWhen (amountCents < 0)
    (denied ⟨.invalidAmount, "reserve amount must be >= 0"⟩)
  let row ←
    updateRow Db.mandates storeMandates mandate.id
      (debitGuard now amountCents) (debited amountCents)
  match row with
  | none => do
      let reason := reserveDenyReason now (some mandate) amountCents
      if recordDeny then
        appendEvent
          { principalId := mandate.principalId
            mandateId := mandate.id
            reservationId := none
            taskId := taskId
            kind := .deny
            amountCents := amountCents
            remainingAfter := some mandate.remainingCents
            idempotencyKey := idempotencyKey
            note := some (.reason reason) }
      throw
        (denied ⟨reason, s!"need {amountCents} have {mandate.remainingCents}"⟩)
  | some mandate => do
      let reservation : Reservation :=
        { id := newId
          principalId := mandate.principalId
          mandateId := mandate.id
          amountCents := amountCents
          status := .held
          idempotencyKey := idempotencyKey
          nonce := nonce }
      addRow Db.reservations storeReservations reservation
      appendEvent
        { principalId := mandate.principalId
          mandateId := mandate.id
          reservationId := some reservation.id
          taskId := taskId
          kind := .reserve
          amountCents := amountCents
          remainingAfter := some mandate.remainingCents
          idempotencyKey := idempotencyKey
          note := none }
      pure (reservation, mandate)

/-! ## The claim of a logical operation -/

/-- The answer to a claim that is already taken. -/
def existingClaim
    (existing : Option IdempotencyRecord)
    (requestHash : Option String) :
    Raised :=
  match existing with
  | none => denied ⟨.idempotencyConflict, "claim unique violation"⟩
  | some existing =>
      if ∃ stored ∈ truthy existing.requestHash,
          ∃ requested ∈ truthy requestHash, stored ≠ requested then
        denied ⟨.idempotencyConflict, "same key, different request hash"⟩
      else if existing.status = .completed ∧
          existing.resultJson.isSome = true then
        .idempotencyReplay existing
      else
        denied ⟨.inProgress, "wait-or-conflict"⟩

/-- `_claim_idempotency`; `view` is what the SELECT after a conflict sees. -/
def claimIdempotency
    (view : Db)
    (principalId : Id)
    (idempotencyKey : String)
    (requestHash : Option String) :
    Body Unit :=
  tryCatch
    (savepoint
      (addRow Db.idempotencyRecords storeClaims
        { principalId := principalId
          idempotencyKey := idempotencyKey
          requestHash := requestHash
          status := .inProgress
          resultJson := none }))
    fun
      | .integrityError =>
          throw
            (existingClaim
              (view.idempotencyRecords.find (principalId, idempotencyKey))
              requestHash)
      | exception => throw exception

/-- `if idempotency_key:` the claim. -/
def claimWhenKeyed
    (view : Db)
    (principalId : Id)
    (idempotencyKey requestHash : Option String) :
    Body Unit :=
  match truthy idempotencyKey with
  | none => pure ()
  | some key => claimIdempotency view principalId key requestHash

/-- The attempt that `reserve_and_commit` inserts. -/
def reservedInvocation
    (newId : Id)
    (mandate : Mandate)
    (reservation : Reservation)
    (taskId : Option Id)
    (tool server : String)
    (requestHash idempotencyKey : Option String)
    (amountCents : Cents) :
    Invocation where
  id := newId
  principalId := mandate.principalId
  mandateId := mandate.id
  reservationId := some reservation.id
  taskId := taskId
  tool := tool
  server := server
  requestHash := requestHash
  idempotencyKey := idempotencyKey
  amountCents := amountCents
  status := .reserved

/-- The denials that `reserve_and_commit` writes to the ledger. -/
def recordedDenials : List Reason :=
  [.budgetExceeded, .maxCallsExceeded, .mandateExpired]

/-- The savepoint of `reserve_and_commit`: claim, reserve, insert attempt. -/
def claimAndReserve
    (view : Db)
    (now : Datetime)
    (mandate : Mandate)
    (amountCents : Cents)
    (idempotencyKey nonce : Option String)
    (tool server : String)
    (requestHash : Option String)
    (taskId : Option Id)
    (reservationNewId invocationNewId : Id) :
    Body (Reservation × Invocation × Mandate) := do
  claimWhenKeyed view mandate.principalId idempotencyKey requestHash
  let (reservation, mandate) ←
    reserve now mandate amountCents idempotencyKey nonce taskId false
      reservationNewId
  let invocation :=
    reservedInvocation invocationNewId mandate reservation taskId tool server
      requestHash idempotencyKey amountCents
  addRow Db.invocations storeInvocations invocation
  pure (reservation, invocation, mandate)

/--
`reserve_and_commit`.  A denied debit is recorded outside the savepoint, and
the exception goes on to the caller.
-/
def reserveAndCommit
    (view : Db)
    (now : Datetime)
    (mandate : Mandate)
    (amountCents : Cents)
    (idempotencyKey nonce : Option String)
    (tool server : String)
    (requestHash : Option String)
    (taskId : Option Id)
    (reservationNewId invocationNewId : Id) :
    Body (Reservation × Invocation × Mandate) :=
  tryCatch
    (savepoint
      (claimAndReserve view now mandate amountCents idempotencyKey nonce tool
        server requestHash taskId reservationNewId invocationNewId))
    fun
      | .policyDenied outcome => do
          let db ← get
          let mandate ←
            orRaise .notFound (db.mandates.find mandate.id)
          if outcome.reason ∈ recordedDenials then
            appendEvent
              { principalId := mandate.principalId
                mandateId := mandate.id
                reservationId := none
                taskId := taskId
                kind := .deny
                amountCents := amountCents
                remainingAfter := some mandate.remainingCents
                idempotencyKey := idempotencyKey
                note := some (.reason outcome.reason) }
          throw (denied outcome)
      | exception => throw exception

/-! ## Compare-and-set -/

/-- `_cas_reservation`: `held → newStatus`. -/
def casReservation
    (reservation : Reservation)
    (newStatus : ReservationStatus) :
    Body (Option Reservation) :=
  updateRow Db.reservations storeReservations reservation.id
    (fun row => row.status = .held)
    (fun row => { row with status := newStatus })

/-- `_cas_invocation`: `allowed → newStatus`. -/
def casInvocation
    (invocation : Invocation)
    (allowed : List InvocationStatus)
    (newStatus : InvocationStatus) :
    Body (Option Invocation) :=
  updateRow Db.invocations storeInvocations invocation.id
    (fun row => row.status ∈ allowed)
    (fun row => { row with status := newStatus })

/-- The SET clause of `_refund_mandate`. -/
def refunded (amountCents : Cents) (row : Mandate) : Mandate :=
  { row with
    remainingCents := row.remainingCents + amountCents
    callsUsed := if row.callsUsed > 0 then row.callsUsed - 1 else 0 }

/-- `_refund_mandate`. -/
def refundMandate (reservation : Reservation) : Body (Option Cents) := do
  let row ←
    updateRow Db.mandates storeMandates reservation.mandateId
      (fun _ => true) (refunded reservation.amountCents)
  pure (row.map Mandate.remainingCents)

/-- The commit or release event of a reservation. -/
def reservationEvent
    (reservation : Reservation)
    (kind : EventKind)
    (remainingAfter : Option Cents)
    (taskId : Option Id) :
    LedgerEvent where
  principalId := reservation.principalId
  mandateId := reservation.mandateId
  reservationId := some reservation.id
  taskId := taskId
  kind := kind
  amountCents := reservation.amountCents
  remainingAfter := remainingAfter
  idempotencyKey := reservation.idempotencyKey
  note := none

/-- `_clear_logical_operation`. -/
def clearLogicalOperation (invocation : Invocation) : Body Unit :=
  match truthy invocation.idempotencyKey with
  | none => pure ()
  | some key =>
      modify fun db =>
        { db with
          idempotencyRecords :=
            db.idempotencyRecords.erase (invocation.principalId, key) }

/-- The claim that `_complete_logical_operation` leaves. -/
def completedClaim
    (invocation : Invocation)
    (key : String)
    (payload : Option InvokeResult)
    (claim : Option IdempotencyRecord) :
    IdempotencyRecord :=
  match claim with
  | none =>
      { principalId := invocation.principalId
        idempotencyKey := key
        requestHash := invocation.requestHash
        status := .completed
        resultJson := payload }
  | some claim =>
      { claim with
        status := .completed
        requestHash :=
          ((truthy invocation.requestHash).map some).getD claim.requestHash
        resultJson := payload }

/-- `_complete_logical_operation`. -/
def completeLogicalOperation
    (invocation : Invocation)
    (payload : Option InvokeResult) :
    Body Unit :=
  match truthy invocation.idempotencyKey with
  | none => pure ()
  | some key => do
      let db ← get
      let claim :=
        db.idempotencyRecords.find (invocation.principalId, key)
      let completed := completedClaim invocation key payload claim
      match claim with
      | none => addRow Db.idempotencyRecords storeClaims completed
      | some _ =>
          modify fun db =>
            { db with
              idempotencyRecords := db.idempotencyRecords.put completed }

/-! ## The dispatch barrier and recovery -/

/-- `MarkExecutingResult`. -/
structure MarkExecutingResult where
  won : Bool
  reason : Option Reason
  deriving Repr, DecidableEq

/-- `TERMINAL_INVOCATION`. -/
def terminalInvocation : List InvocationStatus :=
  [.committed, .released, .executedFail, .ambiguous, .reconciledCommitted,
    .reconciledReleased]

/-- Why a lost `reserved → executing` is reported, from the refreshed status. -/
def markLostReason (status : InvocationStatus) : Reason :=
  if status = .executing then
    .inProgress
  else if status ∈ terminalInvocation then
    .finalizeLost
  else
    .inProgress

/-- `mark_executing`: `reserved → executing`. -/
def markExecuting (invocation : Invocation) : Body MarkExecutingResult := do
  let row ← casInvocation invocation [.reserved] .executing
  match row with
  | some _ => pure { won := true, reason := none }
  | none => do
      let db ← get
      let refreshed ←
        orRaise .notFound (db.invocations.find invocation.id)
      pure { won := false, reason := some (markLostReason refreshed.status) }

/-- `mark_executed_fail`: `executing → executed_fail`. -/
def markExecutedFail (invocation : Invocation) : Body Bool := do
  let row ← casInvocation invocation [.executing] .executedFail
  pure row.isSome

/-! ## Finalizers -/

/-- The captured arguments of a billing callback. -/
structure BillingArgs where
  amountCents : Cents
  principalId : Id
  newId : Id
  deriving Repr, DecidableEq

/--
The callbacks of a finalizer, each by the values its closure captures.
`resultFn` is the result that `_result_payload` completes with the receipt.
-/
structure FinalizeCallbacks where
  receiptFn : Option ReceiptArgs := none
  billingFn : Option BillingArgs := none
  resultJson : Option InvokeResult := none
  resultFn : Option InvokeResult := none
  deriving Repr, DecidableEq

/-- `_result_payload`. -/
def resultPayload
    (env : Env)
    (built : InvokeResult)
    (receipt : Option Receipt) :
    InvokeResult :=
  let shown := receipt.map Receipt.toDict
  { built with
    receipt :=
      if env.retainPayloads then
        shown
      else
        shown.map fun dict =>
          { dict with body := { dict.body with result := none } } }

/-- The payload with which the claim is completed. -/
def FinalizeCallbacks.payload
    (callbacks : FinalizeCallbacks)
    (env : Env)
    (receipt : Option Receipt) :
    Option InvokeResult :=
  match callbacks.resultFn with
  | some built => some (resultPayload env built receipt)
  | none => callbacks.resultJson

/-- `receipt_fn(session)`, when there is one. -/
def runReceiptFn
    (env : Env)
    (callbacks : FinalizeCallbacks) :
    Body (Option Receipt) :=
  match callbacks.receiptFn with
  | none => pure none
  | some args => some <$> issue env args

/-- `billing_fn(session, receipt)`, when there are both. -/
def runBillingFn
    (env : Env)
    (callbacks : FinalizeCallbacks)
    (receipt : Option Receipt) :
    Body (Option Outbox) :=
  match callbacks.billingFn, receipt with
  | some args, some receipt =>
      some <$>
        enqueue env receipt.id args.amountCents args.principalId args.newId
  | _, _ => pure none

/-- `FinalizeResult`, without the refreshed objects. -/
structure FinalizeResult where
  won : Bool
  receipt : Option Receipt
  outbox : Option Outbox
  deriving Repr, DecidableEq

/-- A finalizer that lost a compare-and-set. -/
def FinalizeResult.lost : FinalizeResult where
  won := false
  receipt := none
  outbox := none

/-- `except _FinalizeLost`: report the loss, let other exceptions go on. -/
def onFinalizeLost {α : Type} (lost : α) (exception : Raised) : Body α :=
  match exception with
  | .finalizeLost => pure lost
  | other => throw other

/-- The savepoint of `finalize_success`. -/
def successUnit
    (env : Env)
    (sessionMandate : Id → Option Mandate)
    (reservation : Reservation)
    (invocation : Invocation)
    (callbacks : FinalizeCallbacks) :
    Body FinalizeResult := do
  let reservation ←
    orRaise .finalizeLost (← casReservation reservation .committed)
  let invocation ←
    orRaise .finalizeLost
      (← casInvocation invocation [.executing, .executedOk] .committed)
  let remaining :=
    (sessionMandate reservation.mandateId).map Mandate.remainingCents
  appendEvent
    (reservationEvent reservation .commit remaining invocation.taskId)
  let receipt ← runReceiptFn env callbacks
  let outbox ← runBillingFn env callbacks receipt
  completeLogicalOperation invocation (callbacks.payload env receipt)
  pure { won := true, receipt := receipt, outbox := outbox }

/--
`finalize_success`.  `sessionMandate` is `session.get(Mandate, …)`, which
answers with the object the session already holds.
-/
def finalizeSuccess
    (env : Env)
    (sessionMandate : Id → Option Mandate)
    (reservation : Reservation)
    (invocation : Invocation)
    (callbacks : FinalizeCallbacks) :
    Body FinalizeResult :=
  tryCatch
    (savepoint
      (successUnit env sessionMandate reservation invocation callbacks))
    (onFinalizeLost .lost)

/-- The savepoint of `finalize_release`. -/
def releaseUnit
    (reservation : Option Reservation)
    (invocation : Invocation)
    (allowedStatuses : List InvocationStatus) :
    Body Bool := do
  let reservation ← orRaise .finalizeLost reservation
  let reservation ←
    orRaise .finalizeLost (← casReservation reservation .released)
  let remaining ← refundMandate reservation
  appendEvent
    (reservationEvent reservation .release remaining invocation.taskId)
  let invocation ←
    orRaise .finalizeLost
      (← casInvocation invocation allowedStatuses .released)
  clearLogicalOperation invocation
  pure true

/-- `finalize_release`; without a reservation it loads that of the attempt. -/
def finalizeRelease
    (view : Db)
    (reservation : Option Reservation)
    (invocation : Invocation)
    (allowedStatuses : List InvocationStatus) :
    Body Bool :=
  let reservation :=
    match reservation with
    | some reservation => some reservation
    | none => invocation.reservationId.bind view.reservations.find
  tryCatch (savepoint (releaseUnit reservation invocation allowedStatuses))
    (onFinalizeLost false)

/-- `commit`, the low-level transition of a reservation. -/
def commit
    (sessionMandate : Id → Option Mandate)
    (reservation : Reservation)
    (taskId : Option Id) :
    Body Unit := do
  match ← casReservation reservation .committed with
  | none => pure ()
  | some reservation =>
      appendEvent
        (reservationEvent reservation .commit
          ((sessionMandate reservation.mandateId).map
            Mandate.remainingCents)
          taskId)

/-- `release`, the low-level transition of a reservation. -/
def release (reservation : Reservation) (taskId : Option Id) : Body Unit := do
  match ← casReservation reservation .released with
  | none => pure ()
  | some reservation => do
      let remaining ← refundMandate reservation
      appendEvent (reservationEvent reservation .release remaining taskId)

/--
`recover_reserved`.  The refreshed status chooses the branch, and one
compare-and-set from that status follows.  It answers whether it moved the
attempt.
-/
def recoverReserved
    (views : Views)
    (invocation : Invocation)
    (mode : String) :
    Body Bool := do
  let refreshed ←
    orRaise .notFound ((views 0).invocations.find invocation.id)
  if refreshed.status ∈ terminalInvocation then
    pure false
  else if mode = "release" then
    if refreshed.status = .executing then
      pure false
    else
      finalizeRelease (views 2)
        (refreshed.reservationId.bind (views 1).reservations.find)
        refreshed [.reserved]
  else if refreshed.status = .reserved then do
    let row ← casInvocation refreshed [.reserved] .ambiguous
    pure row.isSome
  else if refreshed.status = .executing then do
    let row ← casInvocation refreshed [.executing] .ambiguous
    pure row.isSome
  else
    pure false

/-! ## Reconciliation -/

/-- `RECONCILE_COMMIT_FROM` and `RECONCILE_RELEASE_FROM`. -/
def reconcileFrom : List InvocationStatus :=
  [.ambiguous, .executedFail]

/-- The evidence kind that a request names. -/
def parseEvidence (evidenceKind : String) : Option EvidenceKind :=
  if evidenceKind = "did_execute" then
    some .didExecute
  else if evidenceKind = "did_not_execute" then
    some .didNotExecute
  else
    none

/-- `_require_evidence`. -/
def requireEvidence
    (evidenceRef evidenceKind : String) :
    Except Denied EvidenceKind := do
  denyWhen (strip evidenceRef = "") .unauthorized "evidence_ref is required"
  match parseEvidence evidenceKind with
  | none =>
      .error ⟨.unauthorized,
        "evidence_kind must be did_execute or did_not_execute"⟩
  | some kind => .ok kind

/-- `_append_reconciliation`. -/
def appendReconciliation
    (event : ReconciliationEvent) :
    Body ReconciliationEvent := do
  modify fun db =>
    { db with reconciliationEvents := db.reconciliationEvents ++ [event] }
  pure event

/-- `_receipt_for_reservation`. -/
def receiptForReservation (db : Db) (reservationId : Id) : Option Receipt :=
  db.receipts.rows.find? fun row => row.reservationId = some reservationId

/-- The receipt and the outbox row of a reservation that has no receipt. -/
def issueMissing
    (env : Env)
    (callbacks : FinalizeCallbacks)
    (found : Option Receipt) :
    Body Unit :=
  match found with
  | some _ => pure ()
  | none => do
      let receipt ← runReceiptFn env callbacks
      let _ ← runBillingFn env callbacks receipt
      pure ()

/-- The branch of `_apply_success_economics` for a committed reservation. -/
def applyAlreadyCommitted
    (env : Env)
    (reservation : Reservation)
    (invocation : Invocation)
    (callbacks : FinalizeCallbacks) :
    Body Unit := do
  let db ← get
  issueMissing env callbacks (receiptForReservation db reservation.id)
  completeLogicalOperation invocation callbacks.resultJson

/-- The receipt that was found, else the one that `receipt_fn` issues. -/
def foundOrIssued
    (env : Env)
    (callbacks : FinalizeCallbacks)
    (found : Option Receipt) :
    Body (Option Receipt) :=
  match found with
  | some receipt => pure (some receipt)
  | none => runReceiptFn env callbacks

/-- The branch of `_apply_success_economics` for a held reservation. -/
def applyHeld
    (env : Env)
    (sessionMandate : Id → Option Mandate)
    (reservation : Reservation)
    (invocation : Invocation)
    (callbacks : FinalizeCallbacks) :
    Body Unit := do
  let db ← get
  let found := receiptForReservation db reservation.id
  let reservation ←
    orRaise .finalizeLost (← casReservation reservation .committed)
  let remaining :=
    (sessionMandate reservation.mandateId).map Mandate.remainingCents
  appendEvent
    (reservationEvent reservation .commit remaining invocation.taskId)
  let receipt ← foundOrIssued env callbacks found
  let _ ← runBillingFn env callbacks receipt
  completeLogicalOperation invocation callbacks.resultJson

/-- `_apply_success_economics`. -/
def applySuccessEconomics
    (env : Env)
    (sessionMandate : Id → Option Mandate)
    (reservation : Reservation)
    (invocation : Invocation)
    (callbacks : FinalizeCallbacks) :
    Body Unit :=
  match reservation.status with
  | .committed =>
      applyAlreadyCommitted env reservation invocation callbacks
  | .held =>
      applyHeld env sessionMandate reservation invocation callbacks
  | .released => throw .finalizeLost

/-- What an operator presents to reconcile an attempt. -/
structure Evidence where
  actor : String
  evidenceRef : String
  evidenceKind : String
  deriving Repr, DecidableEq

/-- The row of `_append_reconciliation`. -/
def reconciliationEvent
    (seen : Invocation)
    (toStatus : InvocationStatus)
    (evidence : Evidence)
    (kind : EvidenceKind) :
    ReconciliationEvent where
  invocationId := seen.id
  fromStatus := seen.status
  toStatus := toStatus
  actor := evidence.actor
  evidenceRef := strip evidence.evidenceRef
  evidenceKind := kind

/-- The savepoint of `reconcile_commit`. -/
def reconcileCommitUnit
    (env : Env)
    (sessionMandate : Id → Option Mandate)
    (seenReservation : Option Reservation)
    (seen : Invocation)
    (evidence : Evidence)
    (kind : EvidenceKind)
    (callbacks : FinalizeCallbacks) :
    Body (Option ReconciliationEvent) := do
  raiseWhen (∃ row ∈ seenReservation, row.status = .released) .finalizeLost
  let invocation ←
    orRaise .finalizeLost
      (← casInvocation seen reconcileFrom .reconciledCommitted)
  let reservation ← orRaise .finalizeLost seenReservation
  let db ← get
  let reservation ←
    orRaise .notFound (db.reservations.find reservation.id)
  raiseWhen (reservation.status = .released) .finalizeLost
  applySuccessEconomics env sessionMandate reservation invocation callbacks
  some <$>
    appendReconciliation
      (reconciliationEvent seen .reconciledCommitted evidence kind)

/--
`reconcile_commit`; `seen` is the in-memory attempt.  It answers with the event
of `ReconcileResult`, which is there exactly when it won.
-/
def reconcileCommit
    (env : Env)
    (views : Views)
    (sessionMandate : Id → Option Mandate)
    (seen : Invocation)
    (evidence : Evidence)
    (callbacks : FinalizeCallbacks) :
    Body (Option ReconciliationEvent) := do
  let kind ←
    ofExcept denied
      (requireEvidence evidence.evidenceRef evidence.evidenceKind)
  raiseWhen (kind ≠ .didExecute)
    (denied ⟨.unauthorized,
      "reconcile_commit requires evidence_kind did_execute"⟩)
  let seenReservation :=
    seen.reservationId.bind (views 0).reservations.find
  tryCatch
    (savepoint
      (reconcileCommitUnit env sessionMandate seenReservation seen evidence
        kind callbacks))
    (onFinalizeLost none)

/-- The claim is cleared only on evidence that nothing was executed. -/
def clearOnEvidence
    (kind : EvidenceKind)
    (invocation : Invocation) :
    Body Unit :=
  match kind with
  | .didNotExecute => clearLogicalOperation invocation
  | .didExecute => pure ()

/-- The savepoint of `reconcile_release`. -/
def reconcileReleaseUnit
    (seenReservation : Option Reservation)
    (seen : Invocation)
    (evidence : Evidence)
    (kind : EvidenceKind) :
    Body (Option ReconciliationEvent) := do
  raiseWhen (∃ row ∈ seenReservation, row.status = .committed) .finalizeLost
  let invocation ←
    orRaise .finalizeLost
      (← casInvocation seen reconcileFrom .reconciledReleased)
  let reservation ← orRaise .finalizeLost seenReservation
  let db ← get
  let reservation ←
    orRaise .notFound (db.reservations.find reservation.id)
  raiseWhen (reservation.status = .committed) .finalizeLost
  let reservation ←
    orRaise .finalizeLost (← casReservation reservation .released)
  let remaining ← refundMandate reservation
  appendEvent
    (reservationEvent reservation .release remaining invocation.taskId)
  clearOnEvidence kind invocation
  some <$>
    appendReconciliation
      (reconciliationEvent seen .reconciledReleased evidence kind)

/-- `reconcile_release`; `seen` is the in-memory attempt. -/
def reconcileRelease
    (views : Views)
    (seen : Invocation)
    (evidence : Evidence) :
    Body (Option ReconciliationEvent) := do
  let kind ←
    ofExcept denied
      (requireEvidence evidence.evidenceRef evidence.evidenceKind)
  raiseWhen (kind = .didExecute)
    (denied ⟨.unauthorized,
      "did_execute evidence cannot use reconciled_released"⟩)
  let seenReservation :=
    seen.reservationId.bind (views 0).reservations.find
  tryCatch
    (savepoint (reconcileReleaseUnit seenReservation seen evidence kind))
    (onFinalizeLost none)

end Crossing

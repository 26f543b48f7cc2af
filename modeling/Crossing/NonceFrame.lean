import Crossing.Steps
import Crossing.TransactionFrame

namespace Crossing

open Relational
open Relational.Transaction

/-!
# What leaves the nonces alone

Nonces are booked by `issue_mandate` and by `invoke`, and stored with a mandate
or a reservation.  Every other transaction leaves the three as they are.
-/

/-- The nonces that are booked, and those of reservations and mandates. -/
structure NonceBook where
  booked : Table UsedNonce
  reserved : List (Id × Option String)
  issued : List (Id × String)

/-- What a reservation says of nonces. -/
def Reservation.mark (row : Reservation) : Id × Option String :=
  (row.principalId, row.nonce)

/-- What a mandate says of nonces. -/
def Mandate.mark (row : Mandate) : Id × String :=
  (row.principalId, row.nonce)

/-- What the database says of nonces. -/
def Db.nonceBook (db : Db) : NonceBook where
  booked := db.usedNonces
  reserved := db.reservations.rows.map Reservation.mark
  issued := db.mandates.rows.map Mandate.mark

/-- A reservation is replaced by one that says the same. -/
theorem Db.nonceBook_putReservation
    {db : Db}
    {old row : Reservation}
    (found : db.reservations.find row.id = some old)
    (same : row.mark = old.mark) :
    (storeReservations db (db.reservations.put row)).nonceBook =
      db.nonceBook :=
  congrArg (fun reserved => { db.nonceBook with reserved := reserved })
    (Table.map_put found same)

/-- A mandate is replaced by one that says the same. -/
theorem Db.nonceBook_putMandate
    {db : Db}
    {old row : Mandate}
    (found : db.mandates.find row.id = some old)
    (same : row.mark = old.mark) :
    (storeMandates db (db.mandates.put row)).nonceBook = db.nonceBook :=
  congrArg (fun issued => { db.nonceBook with issued := issued })
    (Table.map_put found same)

/-- The body leaves what is said of nonces as it is. -/
abbrev LeavesNonces {α : Type} (body : Body α) : Prop :=
  Keeps (fun _ => True) Db.nonceBook body fun _ => True

namespace LeavesNonces

section Statements

/-- A change of the database that leaves the nonces. -/
theorem modify
    {change : Db → Db}
    (same : ∀ db, (change db).nonceBook = db.nonceBook) :
    LeavesNonces (modify change) :=
  Keeps.modify fun db _ => ⟨same db, trivial⟩

/-- An insert into a table without nonces. -/
theorem addRow
    {ρ κ : Type}
    [Keyed ρ κ]
    [DecidableEq κ]
    {table : Db → Table ρ}
    {store : Db → Table ρ → Db}
    {row : ρ}
    (same : ∀ db stored, (store db stored).nonceBook = db.nonceBook) :
    LeavesNonces (addRow table store row) := by
  intro db _
  cases ran : exec (Crossing.addRow table store row) db with
  | mk outcome db' =>
      cases outcome with
      | error exception =>
          obtain ⟨_, rfl⟩ := addRow_error ran
          exact ⟨rfl, trivial, fun _ _ => trivial⟩
      | ok done =>
          obtain ⟨inserted, _, rfl⟩ := addRow_ok ran
          exact ⟨same db inserted, trivial, fun _ _ => trivial⟩

/-- A conditional update that leaves the nonces of the row. -/
theorem updateRow
    {ρ κ : Type}
    [Keyed ρ κ]
    [DecidableEq κ]
    {table : Db → Table ρ}
    {store : Db → Table ρ → Db}
    {k : κ}
    {guard : ρ → Bool}
    {change : ρ → ρ}
    (same :
      ∀ db old,
        (table db).find (Keyed.key old) = some old →
          (store db ((table db).put (change old))).nonceBook =
            db.nonceBook) :
    LeavesNonces (updateRow table store k guard change) := by
  intro db _
  cases ran : exec (Crossing.updateRow table store k guard change) db with
  | mk outcome db' =>
      cases outcome with
      | error exception =>
          simp only [Crossing.updateRow, exec_bind, exec_get] at ran
          split at ran <;> cases ran
      | ok answer =>
          rcases updateRow_ok ran with ⟨_, rfl⟩ | ⟨old, found, _, _, rfl⟩
          · exact ⟨rfl, trivial, fun _ _ => trivial⟩
          · have stored := Table.find_of_mem (Table.mem_of_find found)
            exact ⟨same db old stored, trivial, fun _ _ => trivial⟩

/-- Goes on, whatever was returned. -/
theorem bind
    {α β : Type}
    {first : Body α}
    {next : α → Body β}
    (firstLeaves : LeavesNonces first)
    (nextLeaves : ∀ value, LeavesNonces (next value)) :
    LeavesNonces (first >>= next) :=
  Keeps.bind firstLeaves fun value _ => nextLeaves value

/-- `pure` writes nothing. -/
theorem pure {α : Type} (value : α) : LeavesNonces (pure value : Body α) :=
  Keeps.pure trivial

/-- A value that must be there. -/
theorem orRaise
    {α : Type}
    {exception : Raised}
    {found : Option α} :
    LeavesNonces (orRaise exception found) :=
  Keeps.orRaise.trivially

/-- A check. -/
theorem raiseWhen
    {failed : Prop}
    [Decidable failed]
    {exception : Raised} :
    LeavesNonces (raiseWhen failed exception) :=
  Keeps.raiseWhen.trivially

/-- A pure check. -/
theorem ofExcept
    {α ε : Type}
    {raise : ε → Raised}
    {checked : Except ε α} :
    LeavesNonces (ofExcept raise checked) :=
  Keeps.ofExcept.trivially

/-- Reading. -/
theorem get : LeavesNonces (get : Body Db) :=
  Keeps.get.trivially

/-- A finalizer that reports a loss. -/
theorem orLost
    {α : Type}
    {body : Body α}
    {lost : α}
    (leaves : LeavesNonces body) :
    LeavesNonces (tryCatch (savepoint body) (onFinalizeLost lost)) := by
  refine Keeps.tryCatch (Keeps.savepoint leaves) ?_
  intro exception
  cases exception <;> first | exact Keeps.throw | exact Keeps.pure trivial

end Statements

end LeavesNonces

/-! ## Identities, billing and the outbox -/

section Functions

variable {env : Env} {views : Views} {view : Db}

/-- `append_event`. -/
theorem leavesNonces_appendEvent {event : LedgerEvent} :
    LeavesNonces (appendEvent event) :=
  .modify fun _ => rfl

/-- `create_principal`. -/
theorem leavesNonces_createPrincipal
    {pubkeyHex : Option String}
    {accountId : Option Id}
    {newAccountId newId : Id} :
    LeavesNonces
      (createPrincipal pubkeyHex accountId newAccountId newId) := by
  have account : LeavesNonces (accountOrNew accountId newAccountId) := by
    cases accountId with
    | none => exact .bind (.addRow fun _ _ => rfl) fun _ => .pure _
    | some accountId => exact .pure _
  refine .bind account fun _ => .bind .get fun _ => .bind .orRaise fun _ => ?_
  exact .bind (.addRow fun _ _ => rfl) fun _ => .pure _

/-- `create_agent`. -/
theorem leavesNonces_createAgent
    {principalId newId : Id}
    {parentId : Option Id} :
    LeavesNonces (createAgent views principalId parentId newId) := by
  have checks :
      LeavesNonces (checkParentAgent (views 0) principalId parentId) := by
    cases parentId with
    | none => exact .pure _
    | some parentId => exact .bind .ofExcept fun _ => .raiseWhen
  refine .bind checks fun _ => .bind .get fun _ => .bind .orRaise fun _ => ?_
  exact .bind (.addRow fun _ _ => rfl) fun _ => .pure _

/-- `revoke_agent`. -/
theorem leavesNonces_revokeAgent {fuel : Nat} {agentId : Id} :
    LeavesNonces (revokeAgent views fuel agentId) := by
  refine .bind .orRaise fun _ => .bind .orRaise fun _ => ?_
  exact .bind (.modify fun _ => rfl) fun _ => .pure _

/-- `revoke_mandate`. -/
theorem leavesNonces_revokeMandate {mandateId : Id} :
    LeavesNonces (revokeMandate views mandateId) := by
  refine .bind .orRaise fun _ => .modify fun db => ?_
  refine congrArg (fun issued => { db.nonceBook with issued := issued }) ?_
  apply Table.map_modify
  · exact fun _ => rfl
  · exact fun _ => rfl

/-- The escrow of a child's limit. -/
theorem leavesNonces_escrowWhenChild
    {now : Datetime}
    {child : Mandate}
    {parent : Option Mandate} :
    LeavesNonces (escrowWhenChild now child parent) := by
  cases parent with
  | none => exact .pure _
  | some parent =>
      refine .bind (.updateRow fun _ _ found => ?_) fun _ => ?_
      · exact Db.nonceBook_putMandate found rfl
      · exact .bind .orRaise fun _ => .modify fun _ => rfl

/-- `attach_stripe_customer`. -/
theorem leavesNonces_attachStripeCustomer
    {accountId : Id}
    {stripeCustomerId : String} :
    LeavesNonces (attachStripeCustomer view accountId stripeCustomerId) := by
  refine .bind .orRaise fun _ => .bind .get fun _ => ?_
  exact .bind .raiseWhen fun _ => .modify fun _ => rfl

/-- `apply_stripe_event`. -/
theorem leavesNonces_applyStripeEvent {customerId status : String} :
    LeavesNonces (applyStripeEvent view customerId status) := by
  unfold applyStripeEvent
  split
  · exact .pure _
  · exact .modify fun _ => rfl

/-- `_claim_outbox_rows`. -/
theorem leavesNonces_claimOutboxRows {now leaseSeconds : Int} {limit : Nat} :
    LeavesNonces (claimOutboxRows view now leaseSeconds limit) := by
  have claims (stale : Int) (ids : List Id) :
      LeavesNonces (claimEach now stale ids) := by
    induction ids with
    | nil => exact .pure _
    | cons oid rest inductionHypothesis =>
        refine .bind (.updateRow fun _ _ _ => rfl) fun _ => ?_
        exact .bind inductionHypothesis fun _ => .pure _
  exact claims _ _

/-- `_cas_terminal_from_sending`. -/
theorem leavesNonces_casTerminalFromSending
    {now : Int}
    {seen : Outbox}
    {result : StripeResult} :
    LeavesNonces (casTerminalFromSending now seen result) := by
  unfold casTerminalFromSending
  split
  · exact .updateRow fun _ _ _ => rfl
  · exact .pure _

/-- `requeue_dead`. -/
theorem leavesNonces_requeueDead {now : Int} {outboxId : Option Id} :
    LeavesNonces (requeueDead view now outboxId) :=
  .bind (.modify fun _ => rfl) fun _ => .pure _

/-! ## The attempt, its reservation and its claim -/

/-- `_cas_reservation`. -/
theorem leavesNonces_casReservation
    {reservation : Reservation}
    {newStatus : ReservationStatus} :
    LeavesNonces (casReservation reservation newStatus) :=
  .updateRow fun _ _ found => Db.nonceBook_putReservation found rfl

/-- `_cas_invocation`. -/
theorem leavesNonces_casInvocation
    {invocation : Invocation}
    {allowed : List InvocationStatus}
    {newStatus : InvocationStatus} :
    LeavesNonces (casInvocation invocation allowed newStatus) :=
  .updateRow fun _ _ _ => rfl

/-- `_refund_mandate`. -/
theorem leavesNonces_refundMandate {reservation : Reservation} :
    LeavesNonces (refundMandate reservation) := by
  refine .bind (.updateRow fun _ _ found => ?_) fun _ => .pure _
  exact Db.nonceBook_putMandate found rfl

/-- `_clear_logical_operation`. -/
theorem leavesNonces_clearLogicalOperation {invocation : Invocation} :
    LeavesNonces (clearLogicalOperation invocation) := by
  unfold clearLogicalOperation
  split
  · exact .pure _
  · exact .modify fun _ => rfl

/-- `_complete_logical_operation`. -/
theorem leavesNonces_completeLogicalOperation
    {invocation : Invocation}
    {payload : Option InvokeResult} :
    LeavesNonces (completeLogicalOperation invocation payload) := by
  unfold completeLogicalOperation
  split
  · exact .pure _
  · refine .bind .get fun db => ?_
    dsimp only
    split
    · exact .addRow fun _ _ => rfl
    · exact .modify fun _ => rfl

/-- `mark_executing`. -/
theorem leavesNonces_markExecuting {invocation : Invocation} :
    LeavesNonces (markExecuting invocation) := by
  refine .bind leavesNonces_casInvocation fun row => ?_
  cases row with
  | some row => exact .pure _
  | none => exact .bind .get fun _ => .bind .orRaise fun _ => .pure _

/-- `mark_executed_fail`. -/
theorem leavesNonces_markExecutedFail {invocation : Invocation} :
    LeavesNonces (markExecutedFail invocation) :=
  .bind leavesNonces_casInvocation fun _ => .pure _

/-! ## Finalization -/

/-- The receipt of a finalizer. -/
theorem leavesNonces_runReceiptFn {callbacks : FinalizeCallbacks} :
    LeavesNonces (runReceiptFn env callbacks) := by
  unfold runReceiptFn
  split
  · exact .pure _
  · refine Keeps.map (LeavesNonces.bind .get fun _ => ?_)
    refine .bind .raiseWhen fun _ => ?_
    exact .bind (.addRow fun _ _ => rfl) fun _ => .pure _

/-- The outbox row and the platform fee of a finalizer. -/
theorem leavesNonces_runBillingFn
    {callbacks : FinalizeCallbacks}
    {receipt : Option Receipt} :
    LeavesNonces (runBillingFn env callbacks receipt) := by
  have fee {account : Account} {amountCents : Cents} :
      LeavesNonces (applyPlatformFee env account amountCents) := by
    unfold applyPlatformFee
    dsimp only
    split
    · exact .pure _
    · exact .modify fun _ => rfl
  unfold runBillingFn
  split
  · refine Keeps.map (LeavesNonces.bind .get fun _ => ?_)
    split
    · exact .pure _
    · refine .bind (.addRow fun _ _ => rfl) fun _ => ?_
      split
      · exact .pure _
      · exact .bind fee fun _ => .pure _
  · exact .pure _

/-- `finalize_success`. -/
theorem leavesNonces_finalizeSuccess
    {sessionMandate : Id → Option Mandate}
    {reservation : Reservation}
    {invocation : Invocation}
    {callbacks : FinalizeCallbacks} :
    LeavesNonces
      (finalizeSuccess env sessionMandate reservation invocation
        callbacks) := by
  refine .orLost ?_
  refine .bind leavesNonces_casReservation fun _ => ?_
  refine .bind .orRaise fun _ => ?_
  refine .bind leavesNonces_casInvocation fun _ => ?_
  refine .bind .orRaise fun _ => ?_
  refine .bind leavesNonces_appendEvent fun _ => ?_
  refine .bind leavesNonces_runReceiptFn fun _ => ?_
  refine .bind leavesNonces_runBillingFn fun _ => ?_
  exact .bind leavesNonces_completeLogicalOperation fun _ => .pure _

/-- `finalize_release`. -/
theorem leavesNonces_finalizeRelease
    {reservation : Option Reservation}
    {invocation : Invocation}
    {allowedStatuses : List InvocationStatus} :
    LeavesNonces
      (finalizeRelease view reservation invocation allowedStatuses) := by
  refine .orLost ?_
  refine .bind .orRaise fun _ => ?_
  refine .bind leavesNonces_casReservation fun _ => ?_
  refine .bind .orRaise fun _ => ?_
  refine .bind leavesNonces_refundMandate fun _ => ?_
  refine .bind leavesNonces_appendEvent fun _ => ?_
  refine .bind leavesNonces_casInvocation fun _ => ?_
  refine .bind .orRaise fun _ => ?_
  exact .bind leavesNonces_clearLogicalOperation fun _ => .pure _

/-- `commit`. -/
theorem leavesNonces_commit
    {sessionMandate : Id → Option Mandate}
    {reservation : Reservation}
    {taskId : Option Id} :
    LeavesNonces (commit sessionMandate reservation taskId) := by
  refine .bind leavesNonces_casReservation fun row => ?_
  cases row with
  | none => exact .pure _
  | some row => exact leavesNonces_appendEvent

/-- `release`. -/
theorem leavesNonces_release
    {reservation : Reservation}
    {taskId : Option Id} :
    LeavesNonces (release reservation taskId) := by
  refine .bind leavesNonces_casReservation fun row => ?_
  cases row with
  | none => exact .pure _
  | some row =>
      exact .bind leavesNonces_refundMandate fun _ => leavesNonces_appendEvent

/-- `recover_reserved`. -/
theorem leavesNonces_recoverReserved
    {invocation : Invocation}
    {mode : String} :
    LeavesNonces (recoverReserved views invocation mode) := by
  have cas {seen : Invocation} {allowed : List InvocationStatus} :
      LeavesNonces
        (do
          let row ← casInvocation seen allowed .ambiguous
          pure row.isSome) :=
    .bind leavesNonces_casInvocation fun _ => .pure _
  refine .bind .orRaise fun refreshed => ?_
  split
  · exact .pure _
  split
  · split
    · exact .pure _
    · exact leavesNonces_finalizeRelease
  split
  · exact cas
  split
  · exact cas
  · exact .pure _

/-! ## Reconciliation -/

/-- `_append_reconciliation`. -/
theorem leavesNonces_appendReconciliation {event : ReconciliationEvent} :
    LeavesNonces (appendReconciliation event) :=
  .bind (.modify fun _ => rfl) fun _ => .pure _

/-- `_apply_success_economics`. -/
theorem leavesNonces_applySuccessEconomics
    {sessionMandate : Id → Option Mandate}
    {reservation : Reservation}
    {invocation : Invocation}
    {callbacks : FinalizeCallbacks} :
    LeavesNonces
      (applySuccessEconomics env sessionMandate reservation invocation
        callbacks) := by
  unfold applySuccessEconomics
  split
  · refine .bind .get fun db => .bind ?_ fun _ =>
      leavesNonces_completeLogicalOperation
    unfold issueMissing
    split
    · exact .pure _
    · refine .bind leavesNonces_runReceiptFn fun _ => ?_
      exact .bind leavesNonces_runBillingFn fun _ => .pure _
  · refine .bind .get fun db => ?_
    refine .bind leavesNonces_casReservation fun _ => ?_
    refine .bind .orRaise fun _ => ?_
    refine .bind leavesNonces_appendEvent fun _ => ?_
    refine .bind ?_ fun _ => .bind leavesNonces_runBillingFn fun _ =>
      leavesNonces_completeLogicalOperation
    unfold foundOrIssued
    split
    · exact .pure _
    · exact leavesNonces_runReceiptFn
  · exact Keeps.throw

/-- `reconcile_commit`. -/
theorem leavesNonces_reconcileCommit
    {sessionMandate : Id → Option Mandate}
    {seen : Invocation}
    {evidence : Evidence}
    {callbacks : FinalizeCallbacks} :
    LeavesNonces
      (reconcileCommit env views sessionMandate seen evidence callbacks) := by
  refine .bind .ofExcept fun _ => .bind .raiseWhen fun _ => .orLost ?_
  refine .bind .raiseWhen fun _ => ?_
  refine .bind leavesNonces_casInvocation fun _ => ?_
  refine .bind .orRaise fun _ => .bind .orRaise fun _ => ?_
  refine .bind .get fun _ => .bind .orRaise fun _ => ?_
  refine .bind .raiseWhen fun _ => ?_
  refine .bind leavesNonces_applySuccessEconomics fun _ => ?_
  exact Keeps.map leavesNonces_appendReconciliation

/-- `reconcile_release`. -/
theorem leavesNonces_reconcileRelease
    {seen : Invocation}
    {evidence : Evidence} :
    LeavesNonces (reconcileRelease views seen evidence) := by
  have clears {kind : EvidenceKind} {invocation : Invocation} :
      LeavesNonces (clearOnEvidence kind invocation) := by
    cases kind with
    | didNotExecute => exact leavesNonces_clearLogicalOperation
    | didExecute => exact .pure _
  refine .bind .ofExcept fun _ => .bind .raiseWhen fun _ => .orLost ?_
  refine .bind .raiseWhen fun _ => ?_
  refine .bind leavesNonces_casInvocation fun _ => ?_
  refine .bind .orRaise fun _ => .bind .orRaise fun _ => ?_
  refine .bind .get fun _ => .bind .orRaise fun _ => ?_
  refine .bind .raiseWhen fun _ => ?_
  refine .bind leavesNonces_casReservation fun _ => .bind .orRaise fun _ => ?_
  refine .bind leavesNonces_refundMandate fun _ => ?_
  refine .bind leavesNonces_appendEvent fun _ => .bind clears fun _ => ?_
  exact Keeps.map leavesNonces_appendReconciliation

/-- `post_reconcile`. -/
theorem leavesNonces_postReconcile
    {actor : String}
    {mayAct : Id → Bool}
    {invocationId : Id}
    {body : ReconcileIn}
    {draw : FinishDraw} :
    LeavesNonces
      (postReconcile env views actor mayAct invocationId body draw) := by
  refine .bind .orRaise fun _ => .bind .raiseWhen fun _ => ?_
  refine .bind .ofExcept fun _ => ?_
  dsimp only
  split
  · exact leavesNonces_reconcileCommit
  split
  · exact leavesNonces_reconcileRelease
  · exact Keeps.throw

/-! ## Every other transaction -/

/-- The deny event of `_deny`. -/
theorem leavesNonces_deny
    {principalId : Option Id}
    {mandateId : Id}
    {outcome : Denied}
    {remaining : Option Cents}
    {idempotencyKey : Option String} :
    LeavesNonces
      (deny principalId mandateId outcome remaining idempotencyKey) := by
  refine .bind ?_ fun _ => .pure _
  cases principalId with
  | none => exact .pure _
  | some principalId => exact leavesNonces_appendEvent

/-- `invoke` up to the dispatch. -/
theorem leavesNonces_invokeMark {attempt : Attempt} :
    LeavesNonces (invokeMark attempt) := by
  refine .bind leavesNonces_markExecuting fun _ => ?_
  split
  · exact .pure _
  · exact .bind .get fun _ => .bind .orRaise fun _ => .pure _

/-- `invoke` after the provider raised. -/
theorem leavesNonces_invokeFail {attempt : Attempt} {error : String} :
    LeavesNonces (invokeFail attempt error) :=
  .bind leavesNonces_markExecutedFail fun _ => .pure _

/-- `invoke` after the provider returned. -/
theorem leavesNonces_invokeFinish
    {attempt : Attempt}
    {toolResult : JsonText}
    {draw : FinishDraw} :
    LeavesNonces (invokeFinish env attempt toolResult draw) := by
  refine .bind leavesNonces_finalizeSuccess fun _ => ?_
  split
  · exact .pure _
  · exact .pure _

/-- The direct transactions that are given a nonce. -/
def Txn.takesNonce : Txn → Bool
  | .issueMandate .. | .reserve .. | .reserveAndCommit .. => true
  | _ => false

/-- Every direct transaction that is given no nonce leaves them. -/
theorem leavesNonces_txn
    {txn : Txn}
    (takesNone : txn.takesNonce = false) :
    LeavesNonces (txn.body env views) := by
  cases txn with
  | createPrincipal => exact Keeps.map leavesNonces_createPrincipal
  | createAgent => exact Keeps.map leavesNonces_createAgent
  | revokeAgent => exact Keeps.map leavesNonces_revokeAgent
  | issueMandate => cases takesNone
  | revokeMandate => exact Keeps.map leavesNonces_revokeMandate
  | reserve => cases takesNone
  | reserveAndCommit => cases takesNone
  | markExecuting => exact Keeps.map leavesNonces_markExecuting
  | markExecutedFail => exact Keeps.map leavesNonces_markExecutedFail
  | recoverReserved => exact Keeps.map leavesNonces_recoverReserved
  | finalizeSuccess => exact Keeps.map leavesNonces_finalizeSuccess
  | finalizeRelease => exact Keeps.map leavesNonces_finalizeRelease
  | commit => exact Keeps.map leavesNonces_commit
  | release => exact Keeps.map leavesNonces_release
  | reconcileCommit => exact Keeps.map leavesNonces_reconcileCommit
  | reconcileRelease => exact Keeps.map leavesNonces_reconcileRelease
  | postReconcile => exact Keeps.map leavesNonces_postReconcile
  | attachStripeCustomer => exact Keeps.map leavesNonces_attachStripeCustomer
  | applyStripeEvent => exact Keeps.map leavesNonces_applyStripeEvent
  | claimOutboxRows => exact Keeps.map leavesNonces_claimOutboxRows
  | casTerminalFromSending =>
      exact Keeps.map leavesNonces_casTerminalFromSending
  | requeueDead => exact Keeps.map leavesNonces_requeueDead

end Functions

/-- What a step does to the nonces. -/
inductive NonceStep (env : Env) (s : Sys) : Action → Db → Prop where
  | leaves
      {action : Action}
      {db' : Db}
      (same : db'.nonceBook = s.db.nonceBook) :
      NonceStep env s action db'
  | takes
      {ages : List Nat}
      {txn : Txn}
      {entries : List Entry}
      {db' : Db}
      (takesNonce : txn.takesNonce = true)
      (loaded : txn.Loaded s)
      (returned :
        exec (txn.body env (s.views ages)) s.db = (.ok entries, db')) :
      NonceStep env s (.txn ages txn) db'
  | invokes
      {ages : List Nat}
      {request : InvokeRequest}
      {draw : InvokeDraw}
      {begun : Begun}
      {db' : Db}
      (returned :
        exec (invokeBegin env (s.views ages) request draw) s.db =
          (.ok begun, db')) :
      NonceStep env s (.invoke ages request draw) db'

/-- A committed body that leaves the nonces. -/
theorem LeavesNonces.committed
    {α : Type}
    {body : Body α}
    {db db' : Db}
    {result : α}
    (leaves : LeavesNonces body)
    (committed : Transaction.commit body db = some (result, db')) :
    db'.nonceBook = db.nonceBook :=
  (Keeps.run leaves (commit_eq_some.mp committed) trivial).1

/-- Every step is one of these. -/
theorem step_nonces
    {env : Env}
    {s s' : Sys}
    {action : Action}
    (taken : step env s action = some s') :
    NonceStep env s action s'.db := by
  cases action with
  | txn ages txn =>
      simp only [step] at taken
      split at taken
      · next possible =>
          obtain ⟨⟨entries, db'⟩, committed, rfl⟩ :=
            Option.map_eq_some_iff.mp taken
          cases takes : txn.takesNonce with
          | true => exact .takes takes possible.2 (commit_eq_some.mp committed)
          | false =>
              exact .leaves ((leavesNonces_txn takes).committed committed)
      · cases taken
  | invoke ages request draw =>
      simp only [step] at taken
      split at taken
      · split at taken
        · next committed =>
            cases taken
            exact .invokes (commit_eq_some.mp committed)
        · next committed =>
            obtain ⟨_, _, rfl⟩ := Option.map_eq_some_iff.mp taken
            exact .invokes (commit_eq_some.mp committed)
        · cases taken
      · cases taken
  | mark id =>
      simp only [step] at taken
      split at taken
      · obtain ⟨⟨answer, db'⟩, committed, moved⟩ :=
          Option.map_eq_some_iff.mp taken
        have same := leavesNonces_invokeMark.committed committed
        cases answer <;> cases moved <;> exact .leaves same
      · cases taken
  | dispatch id =>
      simp only [step] at taken
      split at taken <;> cases taken
      exact .leaves rfl
  | providerReturns id toolResult =>
      simp only [step] at taken
      split at taken <;> cases taken
      exact .leaves rfl
  | providerRaises id error =>
      simp only [step] at taken
      split at taken <;> cases taken
      exact .leaves rfl
  | fail id =>
      simp only [step] at taken
      split at taken
      · obtain ⟨⟨answer, db'⟩, committed, rfl⟩ :=
          Option.map_eq_some_iff.mp taken
        exact .leaves (leavesNonces_invokeFail.committed committed)
      · cases taken
  | finish id draw =>
      simp only [step] at taken
      split at taken
      · obtain ⟨⟨answer, db'⟩, committed, rfl⟩ :=
          Option.map_eq_some_iff.mp taken
        exact .leaves (leavesNonces_invokeFinish.committed committed)
      · cases taken

end Crossing

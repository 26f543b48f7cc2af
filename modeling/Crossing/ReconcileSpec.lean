import Crossing.LedgerSpec
import Crossing.TransactionReturns

namespace Crossing

open Relational
open Relational.Transaction

/-!
# When a reconciliation wins

The specifications of the ledger say what a reconciliation has done once it
returned.  Here it is shown to return: on an attempt that is ambiguous or
failed and whose reservation is held, the call of the API wins.
-/

/-! ## Statements that return -/

section Statements

variable {ρ κ : Type} [Keyed ρ κ] [DecidableEq κ]

/-- An insert under a fresh key returns. -/
theorem addRow_returns
    {table : Db → Table ρ}
    {store : Db → Table ρ → Db}
    {row : ρ}
    {db : Db}
    {post : Unit → Db → Prop}
    (fresh : (table db).find (Keyed.key row) = none)
    (holds : ∀ inserted, post () (store db inserted)) :
    Returns (addRow table store row) db post := by
  obtain ⟨inserted, accepted⟩ := Table.insert?_of_fresh fresh
  refine Returns.bind (.get ?_)
  refine Returns.bind (.orRaise accepted ?_)
  exact Returns.set (holds inserted)

/-- A conditional update of a matching row returns the changed row. -/
theorem updateRow_returns
    {table : Db → Table ρ}
    {store : Db → Table ρ → Db}
    {k : κ}
    {guard : ρ → Bool}
    {change : ρ → ρ}
    {old : ρ}
    {db : Db}
    {post : Option ρ → Db → Prop}
    (found : (table db).find k = some old)
    (passes : guard old = true)
    (holds :
      post (some (change old)) (store db ((table db).put (change old)))) :
    Returns (updateRow table store k guard change) db post := by
  have answered :
      (table db).update? k guard change =
        some (change old, (table db).put (change old)) := by
    simp [Table.update?, found, passes]
  refine Returns.bind (.get ?_)
  rw [answered]
  exact Returns.bind (.set (.pure holds))

end Statements

section Ledger

variable {db : Db}

/-- A refund returns. -/
theorem refundMandate_returns
    {reservation : Reservation}
    {post : Option Cents → Db → Prop}
    (holds :
      ∀ remaining,
        post remaining
          { db with mandates := refundedMandates db.mandates reservation }) :
    Returns (refundMandate reservation) db post := by
  have returned :
      ∃ remaining db',
        exec (refundMandate reservation) db = (.ok remaining, db') := by
    cases answered :
        db.mandates.update? reservation.mandateId (fun _ => true)
          (refunded reservation.amountCents) with
    | none => simp [refundMandate, updateRow, answered]
    | some result => simp [refundMandate, updateRow, answered]
  obtain ⟨remaining, db', ran⟩ := returned
  cases refundMandate_ok ran
  exact ⟨remaining, _, ran, holds remaining⟩

/-- The deletion of a claim returns. -/
theorem clearLogicalOperation_returns
    {invocation : Invocation}
    {post : Unit → Db → Prop}
    (holds : ∀ claims, post () { db with idempotencyRecords := claims }) :
    Returns (clearLogicalOperation invocation) db post := by
  unfold clearLogicalOperation
  cases truthy invocation.idempotencyKey with
  | none => exact .pure (holds db.idempotencyRecords)
  | some key => exact .modify (holds _)

/-- The deletion of a claim on evidence returns. -/
theorem clearOnEvidence_returns
    {kind : EvidenceKind}
    {invocation : Invocation}
    {post : Unit → Db → Prop}
    (holds : ∀ claims, post () { db with idempotencyRecords := claims }) :
    Returns (clearOnEvidence kind invocation) db post := by
  cases kind with
  | didExecute => exact .pure (holds db.idempotencyRecords)
  | didNotExecute => exact clearLogicalOperation_returns holds

/-- The completion of a claim returns. -/
theorem completeLogicalOperation_returns
    {invocation : Invocation}
    {payload : Option InvokeResult}
    {post : Unit → Db → Prop}
    (holds : ∀ claims, post () { db with idempotencyRecords := claims }) :
    Returns (completeLogicalOperation invocation payload) db post := by
  unfold completeLogicalOperation
  cases truthy invocation.idempotencyKey with
  | none => exact .pure (holds db.idempotencyRecords)
  | some key =>
      refine Returns.bind (.get ?_)
      cases stored :
          db.idempotencyRecords.find (invocation.principalId, key) with
      | none =>
          dsimp only
          exact addRow_returns (by simpa [completedClaim] using stored)
            holds
      | some claim =>
          dsimp only
          exact .modify (holds _)

/-- `enqueue` of a fresh row returns. -/
theorem enqueue_returns
    {env : Env}
    {receiptId : Id}
    {amountCents : Cents}
    {principalId newId : Id}
    {post : Outbox → Db → Prop}
    (fresh : db.billingOutbox.find newId = none)
    (holds :
      ∀ row outbox accounts,
        post row { db with billingOutbox := outbox, accounts := accounts }) :
    Returns (enqueue env receiptId amountCents principalId newId) db
      post := by
  refine Returns.bind (.get ?_)
  cases existing :
      db.billingOutbox.rows.find? fun row => row.receiptId = receiptId with
  | some known =>
      dsimp only
      exact .pure (holds known db.billingOutbox db.accounts)
  | none =>
      dsimp only
      refine Returns.bind (addRow_returns fresh fun outbox => ?_)
      cases accountForPrincipal db principalId with
      | none => exact Returns.bind (.pure (.pure (holds _ _ db.accounts)))
      | some account =>
          unfold applyPlatformFee
          refine Returns.bind ?_
          dsimp only
          split
          · exact .pure (.pure (holds _ _ db.accounts))
          · exact .modify (.pure (holds _ _ _))

/-- `issue` of a fresh receipt of an open reservation returns. -/
theorem issue_returns
    {env : Env}
    {args : ReceiptArgs}
    {post : Receipt → Db → Prop}
    (unissued :
      ∀ row ∈ db.receipts.rows,
        ∀ reservation, args.reservationId = some reservation →
          row.reservationId ≠ some reservation)
    (fresh : db.receipts.find args.newId = none)
    (holds :
      ∀ receipts,
        post (issuedReceipt env args) { db with receipts := receipts }) :
    Returns (issue env args) db post := by
  refine Returns.bind (.get ?_)
  refine Returns.bind (.raiseWhen ?_ ?_)
  · rintro ⟨reservation, isReservation, row, member, same⟩
    exact unissued row member reservation isReservation same
  · exact Returns.bind (addRow_returns fresh fun receipts =>
      .pure (holds receipts))

/-- The success of a held reservation whose receipt is not issued returns. -/
theorem applyHeld_returns
    {env : Env}
    {sessionMandate : Id → Option Mandate}
    {reservation : Reservation}
    {invocation : Invocation}
    {callbacks : FinalizeCallbacks}
    {args : ReceiptArgs}
    {bill : BillingArgs}
    (found : db.reservations.find reservation.id = some reservation)
    (held : reservation.status = .held)
    (unissued :
      ∀ row ∈ db.receipts.rows,
        row.reservationId ≠ some reservation.id)
    (receiptFn : callbacks.receiptFn = some args)
    (ofReservation : args.reservationId = some reservation.id)
    (billingFn : callbacks.billingFn = some bill)
    (freshReceipt : db.receipts.find args.newId = none)
    (freshOutbox : db.billingOutbox.find bill.newId = none)
    {post : Unit → Db → Prop}
    (holds : ∀ db', post () db') :
    Returns (applyHeld env sessionMandate reservation invocation callbacks) db
      post := by
  have noReceipt : receiptForReservation db reservation.id = none := by
    unfold receiptForReservation
    rw [List.find?_eq_none]
    intro row member
    simpa using unissued row member
  refine Returns.bind (.get ?_)
  refine Returns.bind (updateRow_returns found (by simp [held]) ?_)
  refine Returns.bind (.orRaise rfl ?_)
  refine Returns.bind (.modify ?_)
  rw [noReceipt]
  unfold foundOrIssued runReceiptFn
  rw [receiptFn]
  refine Returns.bind (.map (issue_returns ?_ freshReceipt ?_))
  · intro row member other isOther
    cases ofReservation.symm.trans isOther
    exact unissued row member
  · intro receipts
    unfold runBillingFn
    rw [billingFn]
    refine Returns.bind (.map (enqueue_returns freshOutbox ?_))
    intro row outbox accounts
    exact completeLogicalOperation_returns fun _ => holds _

/-! ## The two reconciliations -/

/-- An attempt that may be reconciled, and its held reservation. -/
structure Reconcilable
    (db : Db)
    (invocation : Invocation)
    (reservation : Reservation) :
    Prop where
  invocationFound : db.invocations.find invocation.id = some invocation
  fromStatus : invocation.status ∈ reconcileFrom
  reservationFound : db.reservations.find reservation.id = some reservation
  held : reservation.status = .held

/-- The savepoint of `reconcile_release` wins on an open attempt. -/
theorem reconcileReleaseUnit_returns
    {invocation : Invocation}
    {reservation : Reservation}
    {evidence : Evidence}
    {kind : EvidenceKind}
    (ready : Reconcilable db invocation reservation) :
    Returns (reconcileReleaseUnit (some reservation) invocation evidence kind)
      db fun event _ => event.isSome = true := by
  have held := ready.held
  refine Returns.bind (.raiseWhen (by simp [held]) ?_)
  refine Returns.bind
    (updateRow_returns ready.invocationFound (by simp [ready.fromStatus]) ?_)
  refine Returns.bind (.orRaise rfl ?_)
  refine Returns.bind (.orRaise rfl ?_)
  refine Returns.bind (.get ?_)
  refine Returns.bind (.orRaise ready.reservationFound ?_)
  refine Returns.bind (.raiseWhen (by simp [held]) ?_)
  refine Returns.bind
    (updateRow_returns ready.reservationFound (by simp [held]) ?_)
  refine Returns.bind (.orRaise rfl ?_)
  refine Returns.bind (refundMandate_returns fun remaining => ?_)
  refine Returns.bind (.modify ?_)
  refine Returns.bind (clearOnEvidence_returns fun claims => ?_)
  exact .map (Returns.bind (.modify (.pure rfl)))

/-- The savepoint of `reconcile_commit` wins on an open attempt. -/
theorem reconcileCommitUnit_returns
    {env : Env}
    {sessionMandate : Id → Option Mandate}
    {invocation : Invocation}
    {reservation : Reservation}
    {evidence : Evidence}
    {kind : EvidenceKind}
    {callbacks : FinalizeCallbacks}
    {args : ReceiptArgs}
    {bill : BillingArgs}
    (ready : Reconcilable db invocation reservation)
    (unissued :
      ∀ row ∈ db.receipts.rows,
        row.reservationId ≠ some reservation.id)
    (receiptFn : callbacks.receiptFn = some args)
    (ofReservation : args.reservationId = some reservation.id)
    (billingFn : callbacks.billingFn = some bill)
    (freshReceipt : db.receipts.find args.newId = none)
    (freshOutbox : db.billingOutbox.find bill.newId = none) :
    Returns
      (reconcileCommitUnit env sessionMandate (some reservation) invocation
        evidence kind callbacks)
      db fun event _ => event.isSome = true := by
  have held := ready.held
  refine Returns.bind (.raiseWhen (by simp [held]) ?_)
  refine Returns.bind
    (updateRow_returns ready.invocationFound (by simp [ready.fromStatus]) ?_)
  refine Returns.bind (.orRaise rfl ?_)
  refine Returns.bind (.orRaise rfl ?_)
  refine Returns.bind (.get ?_)
  refine Returns.bind (.orRaise ready.reservationFound ?_)
  refine Returns.bind (.raiseWhen (by simp [held]) ?_)
  unfold applySuccessEconomics
  rw [held]
  apply Returns.bind
  apply applyHeld_returns
  · exact ready.reservationFound
  · exact held
  · exact unissued
  · exact receiptFn
  · exact ofReservation
  · exact billingFn
  · exact freshReceipt
  · exact freshOutbox
  · intro _
    exact .map (Returns.bind (.modify (.pure rfl)))

/-! ## The call of the API -/

/-- What `post_reconcile` hands to the ledger. -/
def ReconcileIn.evidence (body : ReconcileIn) (actor : String) : Evidence where
  actor := actor
  evidenceRef := body.evidenceRef
  evidenceKind := body.evidenceKind

/-- With a Stripe key, the account of the principal may be billed. -/
def Db.MayBill (db : Db) (env : Env) (principalId : Id) : Prop :=
  env.stripeConfigured = true →
    isBillable env (accountForPrincipal db principalId) = true

/-- The savepoint that a call of `post_reconcile` has run to its end. -/
inductive Posted
    (env : Env)
    (views : Views)
    (actor : String)
    (body : ReconcileIn)
    (draw : FinishDraw)
    (seen : Invocation)
    (db : Db)
    (result : Option ReconciliationEvent)
    (db' : Db) :
    Prop where
  | committed
      (outcome : body.outcome = "committed")
      (mayBill : (views 1).MayBill env seen.principalId)
      (ran :
        exec
            (reconcileCommitUnit env (views 3).mandates.find
              (seen.reservationId.bind (views 2).reservations.find) seen
              (body.evidence actor) .didExecute
              (reconcileCallbacks env seen body.evidenceRef draw))
            db =
          (.ok result, db'))
  | released
      (outcome : body.outcome = "released")
      (ran :
        exec
            (reconcileReleaseUnit
              (seen.reservationId.bind (views 2).reservations.find) seen
              (body.evidence actor) .didNotExecute)
            db =
          (.ok result, db'))

/-- `post_reconcile` changes nothing or runs one of the two savepoints. -/
theorem postReconcile_ok
    {env : Env}
    {views : Views}
    {actor : String}
    {mayAct : Id → Bool}
    {invocationId : Id}
    {body : ReconcileIn}
    {draw : FinishDraw}
    {result : Option ReconciliationEvent}
    {db' : Db}
    (returned :
      exec (postReconcile env views actor mayAct invocationId body draw) db =
        (.ok result, db')) :
    (result = none ∧ db' = db) ∨
      ∃ seen,
        (views 0).invocations.find invocationId = some seen ∧
          Posted env views actor body draw seen db result db' := by
  obtain ⟨seen, _, present, afterPresent⟩ := bind_ok returned
  obtain ⟨found, rfl⟩ := orRaise_ok present
  obtain ⟨_, _, mayRun, afterMay⟩ := bind_ok afterPresent
  obtain ⟨_, rfl⟩ := raiseWhen_ok mayRun
  obtain ⟨_, _, billableRun, decided⟩ := bind_ok afterMay
  obtain ⟨billable, rfl⟩ := ofExcept_ok billableRun
  by_cases commits : body.outcome = "committed"
  · simp only [commits, ↓reduceIte] at decided
    rcases reconcileCommit_ok decided with lost | ran
    · exact .inl lost
    · refine .inr ⟨seen, found, .committed commits ?_ ran⟩
      intro configured
      rw [if_pos ⟨commits, configured⟩] at billable
      by_contra unbillable
      rw [Bool.not_eq_true] at unbillable
      simp [requireBillable, denyWhen, unbillable] at billable
  · rw [if_neg commits] at decided
    by_cases releases : body.outcome = "released"
    · rw [if_pos releases] at decided
      rcases reconcileRelease_ok decided with lost | ran
      · exact .inl lost
      · exact .inr ⟨seen, found, .released releases ran⟩
    · rw [if_neg releases] at decided
      cases decided

end Ledger

end Crossing

import Crossing.ReconcileSpec
import Crossing.Pairing
import Crossing.Runs
import Mathlib.Data.Fintype.EquivFin

namespace Crossing

open Relational
open Relational.Transaction

/-!
# Reservations within the operator's reach

A process that stops inside `invoke` leaves its reservation held.  The runbook
sends the operator to `POST /v1/invocations/…/reconcile` with evidence.  That
call moves an attempt that is ambiguous or failed, and no other, so whether it
helps depends on where the process stopped.
-/

/-! ## The calls of the service -/

/-- The transactions that a route of the API or the worker runs. -/
def Txn.isServed : Txn → Bool
  | .createPrincipal .. | .createAgent .. | .revokeAgent ..
  | .issueMandate .. | .revokeMandate .. | .postReconcile ..
  | .attachStripeCustomer .. | .applyStripeEvent .. | .claimOutboxRows ..
  | .casTerminalFromSending .. | .requeueDead .. =>
      true
  | _ => false

/-- The moves of `invoke` and the transactions of routes and worker. -/
def Action.isServed : Action → Bool
  | .txn _ body => body.isServed
  | _ => true

/-- What is served breaks no rule. -/
theorem Action.isRoutine_of_served
    {action : Action}
    (served : action.isServed = true) :
    action.isRoutine = true := by
  cases action with
  | txn ages txn => cases txn <;> first | rfl | cases served
  | _ => rfl

/-- The outcome that the runbook prescribes for the evidence. -/
def EvidenceKind.outcome : EvidenceKind → String
  | .didExecute => "committed"
  | .didNotExecute => "released"

/-- The body that the runbook prescribes for the evidence. -/
structure ReconcileIn.Prescribed
    (body : ReconcileIn)
    (kind : EvidenceKind) :
    Prop where
  referenced : strip body.evidenceRef ≠ ""
  evidence : parseEvidence body.evidenceKind = some kind
  outcome : body.outcome = kind.outcome

/-- A call of `post_reconcile` by an admin, with the prescribed body. -/
def OperatorCall (kind : EvidenceKind) : Action → Prop
  | .txn [] (.postReconcile _ mayAct _ body _) =>
      (∀ principalId, mayAct principalId = true) ∧ body.Prescribed kind
  | _ => False

/-- Some calls of the operator commit or release the reservation. -/
def Sys.WithinReach
    (env : Env)
    (s : Sys)
    (kind : EvidenceKind)
    (reservationId : Id) :
    Prop :=
  ∃ s' row,
    Later env (fun _ action => OperatorCall kind action) s s' ∧
      s'.db.reservations.find reservationId = some row ∧
      (row.status = .committed ∨ row.status = .released)

/--
The attempt of the reservation is ambiguous or failed, and on evidence that it
was executed its account may be billed.
-/
def Db.AwaitsEvidence
    (db : Db)
    (env : Env)
    (kind : EvidenceKind)
    (reservationId : Id) :
    Prop :=
  ∃ invocation ∈ db.invocations.rows,
    invocation.reservationId = some reservationId ∧
      invocation.status ∈ reconcileFrom ∧
      (kind = .didExecute → db.MayBill env invocation.principalId)

/-! ## What one call does -/

/-- The columns of an account that billing checks. -/
def Account.stripe (account : Account) : Option String × Option String :=
  (account.stripeCustomerId, account.stripeStatus)

/-- Whether an account may be billed depends on these columns only. -/
theorem isBillable_congr
    {env : Env}
    {first second : Option Account}
    (same : first.map Account.stripe = second.map Account.stripe) :
    isBillable env first = isBillable env second := by
  cases first with
  | none =>
      cases second with
      | none => rfl
      | some other => cases same
  | some account =>
      cases second with
      | none => cases same
      | some other =>
          simp only [Option.map_some, Account.stripe, Option.some.injEq,
            Prod.mk.injEq] at same
          simp [isBillable, same.1, same.2]

/-- A fee leaves these columns alone. -/
theorem Charged.stripe
    {env : Env}
    {accounts charged : Table Account}
    (fee : Charged env accounts charged)
    (id : Id) :
    (charged.find id).map Account.stripe =
      (accounts.find id).map Account.stripe := by
  rcases fee with rfl | ⟨account, amountCents, rfl⟩
  · rfl
  · unfold feeCharged
    cases account with
    | none => rfl
    | some account =>
        dsimp only
        split
        · rfl
        · rw [Table.find_modify]
          · split
            · rw [Option.map_map]
              rfl
            · rfl
          · intro row
            rfl

/-- A fee does not decide who may be billed. -/
theorem Charged.mayBill
    {env : Env}
    {db db' : Db}
    (fee : Charged env db.accounts db'.accounts)
    (samePrincipals : db'.principals = db.principals)
    {principalId : Id} :
    db'.MayBill env principalId ↔ db.MayBill env principalId := by
  have sameStripe :
      (accountForPrincipal db' principalId).map Account.stripe =
        (accountForPrincipal db principalId).map Account.stripe := by
    unfold accountForPrincipal
    rw [samePrincipals]
    cases db.principals.find principalId with
    | none => rfl
    | some principal => exact fee.stripe principal.accountId
  unfold Db.MayBill
  rw [isBillable_congr sameStripe]

/-- What a won reconciliation on evidence does to the tables. -/
inductive Reconciled
    (env : Env)
    (kind : EvidenceKind)
    (seen : Invocation)
    (db db' : Db) :
    Prop where
  | won
      {reservationId : Id}
      {toStatus : InvocationStatus}
      (found : db.invocations.find seen.id = some seen)
      (fromStatus : seen.status ∈ reconcileFrom)
      (mayBill : kind = .didExecute → db.MayBill env seen.principalId)
      (link : seen.reservationId = some reservationId)
      (moved :
        db'.invocations =
          db.invocations.put { seen with status := toStatus })
      (closed : toStatus ∉ reconcileFrom)
      (others :
        ∀ id, id ≠ reservationId →
          db'.reservations.find id = db.reservations.find id)
      (settled :
        ∃ row, db'.reservations.find reservationId = some row ∧
          (row.status = .committed ∨ row.status = .released))
      (samePrincipals : db'.principals = db.principals)
      (charged : Charged env db.accounts db'.accounts)

/-- A savepoint that ran on fresh reads has reconciled the attempt. -/
theorem Posted.reconciled
    {env : Env}
    {actor : String}
    {body : ReconcileIn}
    {draw : FinishDraw}
    {kind : EvidenceKind}
    {seen : Invocation}
    {db db' : Db}
    {result : Option ReconciliationEvent}
    (prescribed : body.Prescribed kind)
    (found : db.invocations.find seen.id = some seen)
    (posted :
      Posted env (fun _ => db) actor body draw seen db result db') :
    Reconciled env kind seen db db' := by
  cases posted with
  | committed outcome mayBill ran =>
      obtain
        ⟨given, row, attempt, isGiven, rowId, attemptId, fromStatus, _,
          settled⟩ :=
        reconcileCommitUnit_ok ran
      have link := reservation_of_bind isGiven rowId
      rcases settled with
        ⟨_, _, _, _, _, settling, rfl⟩ | ⟨_, _, _, _, resettling, rfl⟩
      · have isSeen : attempt = seen := by
          have stored := settling.invocationFound
          rw [attemptId, found] at stored
          exact (Option.some.inj stored).symm
        subst isSeen
        refine .won found fromStatus (fun _ => mayBill) link rfl (by decide)
          ?_ ?_ rfl settling.billingStep.charged
        · intro id other
          exact Table.find_put_of_ne (Ne.symm other)
        · exact ⟨_, Table.find_put_self settling.reservationFound, .inl rfl⟩
      · have isSeen : attempt = seen := by
          have stored := resettling.invocationFound
          rw [attemptId, found] at stored
          exact (Option.some.inj stored).symm
        subst isSeen
        exact .won found fromStatus (fun _ => mayBill) link rfl (by decide)
          (fun _ _ => rfl)
          ⟨row, resettling.reservationFound, .inl resettling.committed⟩ rfl
          resettling.charged
  | released outcome ran =>
      obtain
        ⟨given, row, attempt, _, isGiven, releasing, rowId, attemptId,
          fromStatus, _, rfl⟩ :=
        reconcileReleaseUnit_ok ran
      have link := reservation_of_bind isGiven rowId
      have isSeen : attempt = seen := by
        have stored := releasing.invocationFound
        rw [attemptId, found] at stored
        exact (Option.some.inj stored).symm
      subst isSeen
      have notExecuted : kind ≠ .didExecute := by
        rintro rfl
        have same := prescribed.outcome.symm.trans outcome
        simp [EvidenceKind.outcome] at same
      refine .won found fromStatus (fun executed => (notExecuted executed).elim)
        link rfl (by decide) ?_ ?_ rfl (.inl rfl)
      · intro id other
        exact Table.find_put_of_ne (Ne.symm other)
      · exact ⟨_, Table.find_put_self releasing.reservationFound, .inr rfl⟩

/-- A call of the operator changes nothing or reconciles an attempt. -/
theorem operatorCall_ok
    {env : Env}
    {kind : EvidenceKind}
    {action : Action}
    {s s' : Sys}
    (isCall : OperatorCall kind action)
    (taken : step env s action = some s') :
    s'.db = s.db ∨ ∃ seen, Reconciled env kind seen s.db s'.db := by
  unfold OperatorCall at isCall
  split at isCall
  · obtain ⟨_, prescribed⟩ := isCall
    simp only [step] at taken
    split at taken
    · obtain ⟨⟨entries, db'⟩, committed, rfl⟩ :=
        Option.map_eq_some_iff.mp taken
      obtain ⟨result, ran, _⟩ := map_ok (commit_eq_some.mp committed)
      rw [Sys.views_nil] at ran
      rcases postReconcile_ok ran with ⟨_, same⟩ | ⟨seen, found, posted⟩
      · exact .inl same
      · have seenId := Table.key_of_find found
        rw [← seenId] at found
        exact .inr ⟨seen, posted.reconciled prescribed found⟩
    · cases taken
  · exact isCall.elim

/-! ## Out of reach -/

/-- A reconciliation leaves a reservation alone that awaits no evidence. -/
theorem Reconciled.outOfReach
    {env : Env}
    {kind : EvidenceKind}
    {seen : Invocation}
    {db db' : Db}
    {id : Id}
    {row : Reservation}
    (reconciled : Reconciled env kind seen db db')
    (found : db.reservations.find id = some row)
    (unawaited : ¬ db.AwaitsEvidence env kind id) :
    db'.reservations.find id = some row ∧
      ¬ db'.AwaitsEvidence env kind id := by
  cases reconciled with
  | @won reservationId toStatus seenFound fromStatus mayBill link moved closed
      others _ samePrincipals charged =>
      have different : id ≠ reservationId := by
        rintro rfl
        exact unawaited
          ⟨seen, Table.mem_of_find seenFound, link, fromStatus, mayBill⟩
      refine ⟨(others id different).trans found, ?_⟩
      rintro ⟨invocation, member, linked, isOpen, bills⟩
      rw [moved] at member
      rcases mem_moved member with rfl | ⟨inOld, _⟩
      · exact closed isOpen
      · refine unawaited ⟨invocation, inOld, linked, isOpen, ?_⟩
        intro executed
        exact (charged.mayBill samePrincipals).mp (bills executed)

/-- No calls of the operator move a reservation that awaits no evidence. -/
theorem outOfReach_later
    {env : Env}
    {kind : EvidenceKind}
    {s s' : Sys}
    {id : Id}
    {row : Reservation}
    (found : s.db.reservations.find id = some row)
    (unawaited : ¬ s.db.AwaitsEvidence env kind id)
    (later : Later env (fun _ action => OperatorCall kind action) s s') :
    s'.db.reservations.find id = some row ∧
      ¬ s'.db.AwaitsEvidence env kind id := by
  induction later with
  | refl =>
      exact ⟨found, unawaited⟩
  | tail _ taken inductionHypothesis =>
      obtain ⟨found, unawaited⟩ := inductionHypothesis
      obtain ⟨action, isCall, taken⟩ := taken
      rcases operatorCall_ok isCall taken with same | ⟨seen, reconciled⟩
      · rw [same]
        exact ⟨found, unawaited⟩
      · exact reconciled.outOfReach found unawaited

/-- A held reservation within reach awaits evidence. -/
theorem Sys.WithinReach.awaitsEvidence
    {env : Env}
    {s : Sys}
    {kind : EvidenceKind}
    {id : Id}
    {row : Reservation}
    (found : s.db.reservations.find id = some row)
    (held : row.status = .held)
    (within : s.WithinReach env kind id) :
    s.db.AwaitsEvidence env kind id := by
  obtain ⟨s', row', later, found', settled⟩ := within
  by_contra unawaited
  obtain ⟨same, _⟩ := outOfReach_later found unawaited later
  cases same.symm.trans found'
  rw [held] at settled
  simp at settled

/-! ## Within reach -/

/-- The evidence that the runbook prescribes is accepted. -/
theorem ReconcileIn.Prescribed.accepted
    {body : ReconcileIn}
    {kind : EvidenceKind}
    (prescribed : body.Prescribed kind) :
    requireEvidence body.evidenceRef body.evidenceKind = .ok kind := by
  simp [requireEvidence, denyWhen, prescribed.referenced,
    prescribed.evidence]
  rfl

/-- The prescribed call wins on an attempt that awaits evidence. -/
theorem postReconcile_returns
    {env : Env}
    {actor : String}
    {mayAct : Id → Bool}
    {body : ReconcileIn}
    {draw : FinishDraw}
    {kind : EvidenceKind}
    {seen : Invocation}
    {row : Reservation}
    {db : Db}
    (prescribed : body.Prescribed kind)
    (admin : mayAct seen.principalId = true)
    (ready : Reconcilable db seen row)
    (link : seen.reservationId = some row.id)
    (mayBill : kind = .didExecute → db.MayBill env seen.principalId)
    (unissued :
      ∀ receipt ∈ db.receipts.rows, receipt.reservationId ≠ some row.id)
    (freshReceipt : db.receipts.find draw.newReceiptId = none)
    (freshOutbox : db.billingOutbox.find draw.newOutboxId = none) :
    Returns
      (postReconcile env (fun _ => db) actor mayAct seen.id body draw) db
      fun event _ => event.isSome = true := by
  have accepted := prescribed.accepted
  have loaded : seen.reservationId.bind db.reservations.find = some row := by
    rw [link]
    exact ready.reservationFound
  refine Returns.bind (.orRaise ready.invocationFound ?_)
  refine Returns.bind (.raiseWhen (by simp [admin]) ?_)
  cases kind with
  | didExecute =>
      have isCommitted : body.outcome = "committed" := prescribed.outcome
      have billable :
          (if body.outcome = "committed" ∧ env.stripeConfigured = true then
              requireBillable env db seen.principalId
            else
              .ok ()) =
            (.ok () : Except Denied Unit) := by
        split
        · rename_i configured
          have passes := mayBill rfl configured.2
          simp [requireBillable, denyWhen, passes]
        · rfl
      refine Returns.bind (.ofExcept billable ?_)
      rw [if_pos isCommitted]
      refine Returns.bind (.ofExcept accepted ?_)
      refine Returns.bind (.raiseWhen (by simp) ?_)
      apply Returns.tryCatch_savepoint
      change Returns
        (reconcileCommitUnit env _
          (seen.reservationId.bind db.reservations.find) _ _ _ _) db _
      rw [loaded]
      exact reconcileCommitUnit_returns ready unissued rfl link rfl
        freshReceipt freshOutbox
  | didNotExecute =>
      have isReleased : body.outcome = "released" := prescribed.outcome
      have notCommitted : body.outcome ≠ "committed" := by
        rw [isReleased]
        decide
      have unchecked :
          (if body.outcome = "committed" ∧ env.stripeConfigured = true then
              requireBillable env db seen.principalId
            else
              .ok ()) =
            (.ok () : Except Denied Unit) :=
        if_neg fun both => notCommitted both.1
      refine Returns.bind (.ofExcept unchecked ?_)
      rw [if_neg notCommitted, if_pos isReleased]
      refine Returns.bind (.ofExcept accepted ?_)
      refine Returns.bind (.raiseWhen (by simp) ?_)
      apply Returns.tryCatch_savepoint
      change Returns
        (reconcileReleaseUnit
          (seen.reservationId.bind db.reservations.find) _ _ _) db _
      rw [loaded]
      exact reconcileReleaseUnit_returns ready

/-- Some id is fresh in a table. -/
theorem exists_fresh
    {ρ : Type}
    [Keyed ρ Id]
    (table : Table ρ) :
    ∃ id, table.find id = none := by
  obtain ⟨id, fresh⟩ :=
    Infinite.exists_notMem_finset (table.rows.map Keyed.key).toFinset
  refine ⟨id, Table.find_eq_none_iff.mpr ?_⟩
  intro row member same
  apply fresh
  rw [List.mem_toFinset, ← same]
  exact List.mem_map_of_mem member

/-- The body that the runbook prescribes, with some reference. -/
def EvidenceKind.body : EvidenceKind → ReconcileIn
  | .didExecute =>
      { outcome := "committed"
        evidenceRef := "case"
        evidenceKind := "did_execute" }
  | .didNotExecute =>
      { outcome := "released"
        evidenceRef := "case"
        evidenceKind := "did_not_execute" }

/-- This body is prescribed. -/
theorem EvidenceKind.body_prescribed (kind : EvidenceKind) :
    kind.body.Prescribed kind := by
  cases kind <;> exact ⟨by decide, by decide, rfl⟩

/-- A held reservation that awaits evidence is within reach. -/
theorem Sys.withinReach
    {env : Env}
    {s : Sys}
    {kind : EvidenceKind}
    {id : Id}
    {row : Reservation}
    (law : s.db.Paired)
    (found : s.db.reservations.find id = some row)
    (held : row.status = .held)
    (awaits : s.db.AwaitsEvidence env kind id) :
    s.WithinReach env kind id := by
  obtain ⟨seen, member, link, fromStatus, mayBill⟩ := awaits
  have seenFound := Table.find_of_mem member
  obtain rfl : row.id = id := Table.key_of_find found
  have ready : Reconcilable s.db seen row := ⟨seenFound, fromStatus, found, held⟩
  have unissued :
      ∀ receipt ∈ s.db.receipts.rows, receipt.reservationId ≠ some row.id := by
    intro receipt isReceipt ofThis
    have committed := law.earned_committed isReceipt found ofThis
    rw [held] at committed
    cases committed
  obtain ⟨receiptId, freshReceipt⟩ := exists_fresh s.db.receipts
  obtain ⟨outboxId, freshOutbox⟩ := exists_fresh s.db.billingOutbox
  have called :
      Returns
        (postReconcile env (fun _ => s.db) "operator" (fun _ => true) seen.id
          kind.body ⟨receiptId, outboxId, noon, noon⟩)
        s.db fun event _ => event.isSome = true :=
    postReconcile_returns kind.body_prescribed rfl ready link mayBill
      unissued freshReceipt freshOutbox
  obtain ⟨event, db', ran, won⟩ := called
  have reconciled : Reconciled env kind seen s.db db' := by
    rcases postReconcile_ok ran with ⟨lost, _⟩ | ⟨loaded, isSeen, posted⟩
    · rw [lost] at won
      cases won
    · cases isSeen.symm.trans seenFound
      exact posted.reconciled kind.body_prescribed seenFound
  cases reconciled with
  | @won reservationId _ _ _ _ linked _ _ _ settled _ _ =>
      obtain rfl : row.id = reservationId :=
        Option.some.inj (link.symm.trans linked)
      obtain ⟨row', found', status⟩ := settled
      have taken :
          step env s
              (.txn []
                (.postReconcile "operator" (fun _ => true) seen.id kind.body
                  ⟨receiptId, outboxId, noon, noon⟩)) =
            some (s.commit db' (event.toList.map .reconciled)) := by
        have committed :
            Transaction.commit
                (Txn.body env (s.views [])
                  (.postReconcile "operator" (fun _ => true) seen.id
                    kind.body ⟨receiptId, outboxId, noon, noon⟩))
                s.db =
              some (event.toList.map .reconciled, db') := by
          rw [commit_eq_some, Sys.views_nil]
          unfold Txn.body
          rw [exec_map, ran]
        unfold step
        dsimp only
        rw [if_pos ⟨List.Pairwise.nil, trivial⟩, committed]
        rfl
      have isCall :
          OperatorCall kind
            (.txn []
              (.postReconcile "operator" (fun _ => true) seen.id kind.body
                ⟨receiptId, outboxId, noon, noon⟩)) :=
        ⟨fun _ => rfl, kind.body_prescribed⟩
      exact
        ⟨_, row', Relation.ReflTransGen.single ⟨_, isCall, taken⟩, found',
          status⟩

/-! ## The states in which a process has stopped -/

/-- What is served keeps attempts and reservations in step. -/
theorem reachable_served_paired
    {env : Env}
    {s : Sys}
    (reachable :
      Reachable env (fun _ action => action.isServed = true) s) :
    s.db.Paired := by
  refine reachable_paired { Discipline.free with paired := True } trivial ?_
    reachable
  intro _ _ served
  exact Discipline.allows_routine _ (Action.isRoutine_of_served served)

/--
In a state that the API and the worker lead to, the operator's calls settle a
held reservation exactly when its attempt is ambiguous or failed and, on
evidence that it was executed, its account may be billed.
-/
theorem operator_settles_iff
    {env : Env}
    {s : Sys}
    {id : Id}
    {row : Reservation}
    (reachable :
      Reachable env (fun _ action => action.isServed = true) s)
    (found : s.db.reservations.find id = some row)
    (held : row.status = .held)
    (kind : EvidenceKind) :
    s.WithinReach env kind id ↔ s.db.AwaitsEvidence env kind id :=
  ⟨fun within => within.awaitsEvidence found held,
    s.withinReach (reachable_served_paired reachable) found held⟩

/-! ## Where the process may stop -/

/-- Runs of what is served are permitted. -/
theorem Permitted.served
    {env : Env}
    {actions : List Action}
    (served : actions.all Action.isServed = true)
    (s : Sys) :
    Permitted env (fun _ action => action.isServed = true) s actions := by
  apply Permitted.of_forall
  intro action member _
  exact List.all_eq_true.mp served action member

/-- The attempt has failed, and the operator may settle its reservation. -/
theorem operator_settles_iff_example :
    ∃ s row,
      Reachable .plain (fun _ action => action.isServed = true) s ∧
        s.db.reservations.find 1 = some row ∧
        row.status = .held ∧
        ∀ kind, s.WithinReach .plain kind 1 := by
  have checked :
      (run .plain Sys.start
          (deploy ++
            [.invoke [] call (drawTen 1), .mark 1, .dispatch 1,
              .providerRaises 1 "down", .fail 1])).any
          (fun s =>
            (s.db.reservations.find 1).any (fun row => row.status = .held) &&
              s.db.invocations.rows.any fun invocation =>
                invocation.reservationId = some 1 &&
                  invocation.status = .executedFail) =
        true := by
    decide
  obtain ⟨s, reachable, passes⟩ :=
    reachable_of_check (.served (by decide) _) checked
  obtain ⟨hasRow, hasAttempt⟩ := Bool.and_eq_true_iff.mp passes
  obtain ⟨row, found, held⟩ := (Option.any_eq_true _ _).mp hasRow
  obtain ⟨invocation, member, both⟩ := List.any_eq_true.mp hasAttempt
  obtain ⟨link, failed⟩ := Bool.and_eq_true_iff.mp both
  refine ⟨s, row, reachable, found, of_decide_eq_true held, ?_⟩
  intro kind
  rw [operator_settles_iff reachable found (of_decide_eq_true held) kind]
  refine ⟨invocation, member, of_decide_eq_true link, ?_, ?_⟩
  · rw [of_decide_eq_true failed]
    decide
  · intro _ configured
    cases configured

/--
A process may stop after its reservation, after the barrier, during the
provider call and before its finalization.
-/
def stops : List (List Action) :=
  [[.invoke [] call (drawTen 1)],
    [.invoke [] call (drawTen 1), .mark 1],
    [.invoke [] call (drawTen 1), .mark 1, .dispatch 1],
    [.invoke [] call (drawTen 1), .mark 1, .dispatch 1,
      .providerReturns 1 "found"]]

/-- At each of these points no calls of the operator settle the reservation. -/
theorem stopped_beyond_reach :
    ∀ stop ∈ stops,
      ∃ s row,
        Reachable .plain (fun _ action => action.isServed = true) s ∧
          run .plain Sys.start (deploy ++ stop) = some s ∧
          s.db.reservations.find 1 = some row ∧
          row.status = .held ∧
          ∀ kind, ¬ s.WithinReach .plain kind 1 := by
  intro stop isStop
  have checked :
      (run .plain Sys.start (deploy ++ stop)).any
          (fun s =>
            (s.db.reservations.find 1).any (fun row => row.status = .held) &&
              s.db.invocations.rows.all fun invocation =>
                invocation.status ∉ reconcileFrom) =
        true := by
    revert stop
    decide
  have served : (deploy ++ stop).all Action.isServed = true := by
    revert stop
    decide
  obtain ⟨s, ran, passes⟩ := (Option.any_eq_true _ _).mp checked
  obtain ⟨hasRow, allClosed⟩ := Bool.and_eq_true_iff.mp passes
  obtain ⟨row, found, held⟩ := (Option.any_eq_true _ _).mp hasRow
  refine
    ⟨s, row, reachable_iff_run.mpr ⟨_, .served served _, ran⟩, ran, found,
      of_decide_eq_true held, ?_⟩
  intro kind within
  obtain ⟨invocation, member, _, isOpen, _⟩ :=
    within.awaitsEvidence found (of_decide_eq_true held)
  have closed := List.all_eq_true.mp allClosed invocation member
  exact of_decide_eq_true closed isOpen

/-- A process that stops during the provider call strands its reservation. -/
theorem operator_cannot_settle :
    ∃ s row,
      Reachable .plain (fun _ action => action.isServed = true) s ∧
        run .plain Sys.start
            (deploy ++
              [.invoke [] call (drawTen 1), .mark 1, .dispatch 1]) =
          some s ∧
        s.db.reservations.find 1 = some row ∧
        row.status = .held ∧
        ∀ kind, ¬ s.WithinReach .plain kind 1 :=
  stopped_beyond_reach _ (by simp [stops])

end Crossing

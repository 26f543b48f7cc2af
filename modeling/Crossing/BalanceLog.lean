import Crossing.Conservation
import Crossing.ReconcileSpec
import Crossing.Runs

namespace Crossing

open Relational
open Relational.Transaction

/-!
# The balances in the ledger

A reserve, commit, release or escrow event tells what is left on its mandate.
Debits and refunds take it from the row that they have changed, so that it is
true when they commit.  A commit event takes it from the mandate that its
session holds, which may have been loaded long before.
-/

/-- The event tells what the database has left on its mandate. -/
def LedgerEvent.TrueIn (db : Db) (event : LedgerEvent) : Prop :=
  ∃ row,
    db.mandates.find event.mandateId = some row ∧
      event.remainingAfter = some row.remainingCents

/-- The new events of a commit tell what it leaves on their mandates. -/
def Told (db db' : Db) : Prop :=
  ∃ added,
    db'.ledgerEvents = db.ledgerEvents ++ added ∧
      ∀ event ∈ added, event.kind ≠ .deny → event.TrueIn db'

/-- Every reservation is one of a stored mandate. -/
def Db.ReservesStored (db : Db) : Prop :=
  ∀ row ∈ db.reservations.rows, ∃ mandate,
    db.mandates.find row.mandateId = some mandate

section Events

variable
  {env : Env}
  {discipline : Discipline}
  {origin : Origin}
  {entries : List Entry}
  {db db' : Db}
  {reservation : Reservation}

/-- A commit that adds no event. -/
theorem Told.quiet (same : db'.ledgerEvents = db.ledgerEvents) :
    Told db db' :=
  ⟨[], by simpa using same, by simp⟩

/-- A commit that adds one event. -/
theorem Told.one
    {event : LedgerEvent}
    (appended : db'.ledgerEvents = db.ledgerEvents ++ [event])
    (isTrue : event.kind ≠ .deny → event.TrueIn db') :
    Told db db' := by
  refine ⟨[event], appended, ?_⟩
  intro one member
  obtain rfl := List.mem_singleton.mp member
  exact isTrue

/-- A release event is written from the refunded row. -/
theorem refund_trueIn
    (ofMandate : ∃ mandate,
      db.mandates.find reservation.mandateId = some mandate)
    (refunds : db'.mandates = refundedMandates db.mandates reservation)
    (taskId : Option Id) :
    (reservationEvent reservation .release
        (refundedRemaining db.mandates reservation) taskId).TrueIn db' := by
  obtain ⟨mandate, found⟩ := ofMandate
  have after :
      (refundedMandates db.mandates reservation).find
          reservation.mandateId =
        some (refunded reservation.amountCents mandate) := by
    have isMandate : mandate.id = reservation.mandateId :=
      Table.key_of_find found
    rw [refundedMandates, Table.modify_of_find found, Table.find_put, found]
    simp [refunded, isMandate]
  refine ⟨refunded reservation.amountCents mandate, ?_, ?_⟩
  · rw [refunds]
    exact after
  · simp only [reservationEvent, refundedRemaining, after, Option.map_some]

/-- A debit event is written from the debited row. -/
theorem debit_trueIn
    {old : Mandate}
    {reservations : Table Reservation}
    (debit : Debit db old reservation reservations)
    (debits :
      db'.mandates =
        db.mandates.put (debited reservation.amountCents old))
    (taskId : Option Id) :
    (reservationEvent reservation .reserve
        (some (debited reservation.amountCents old).remainingCents)
        taskId).TrueIn db' := by
  refine ⟨debited reservation.amountCents old, ?_, rfl⟩
  rw [debits]
  simp only [reservationEvent, debit.ofMandate]
  exact Table.find_put_self debit.found

/-- A commit event tells the truth when the session shows it. -/
theorem commit_trueIn
    {remaining : Option Cents}
    (ofMandate : ∃ mandate,
      db.mandates.find reservation.mandateId = some mandate)
    (shown :
      remaining =
        (db.mandates.find reservation.mandateId).map Mandate.remainingCents)
    (sameMandates : db'.mandates = db.mandates)
    (taskId : Option Id) :
    (reservationEvent reservation .commit remaining taskId).TrueIn db' := by
  obtain ⟨mandate, found⟩ := ofMandate
  refine ⟨mandate, ?_, ?_⟩
  · rw [sameMandates]
    exact found
  · simp [reservationEvent, shown, found]

/-- All effects but the commit of a reservation tell the truth. -/
theorem Effect.told
    (effect : Effect env discipline origin db entries db')
    (stored : db.ReservesStored)
    (owned : discipline.ownFinalize)
    (noFinish : ∀ id, origin ≠ .finish id)
    (noCommit : ∀ given taskId, origin ≠ .txn (.commit given taskId))
    (noEvidence : ∀ event, .reconciled event ∉ entries) :
    Told db db' := by
  cases effect with
  | denied isDeny =>
      exact .one rfl fun notDeny => (notDeny isDeny).elim
  | @issuedChild mandate parent mandates event issued parentFound _ _ _ isEscrow
      _ _ balance =>
      apply Told.one rfl
      intro _
      refine ⟨escrowed mandate.spendLimitCents parent, ?_, balance⟩
      rw [isEscrow.2.1]
      exact
        Table.find_put_self
          (Table.find_insert_of_some issued.inserted parentFound)
  | reservedOnly _ debit => exact .one rfl fun _ => debit_trueIn debit rfl _
  | opened opening =>
      exact .one rfl fun _ => debit_trueIn opening.debit rfl _
  | settled _ via =>
      cases via with
      | finalized _ _ byCall => exact (noFinish _ (byCall owned)).elim
      | reconciled => exact (noEvidence _ (List.mem_singleton_self _)).elim
  | released releasing _ _ _ taskId balance =>
      subst balance
      have ofMandate :=
        stored _ (Table.mem_of_find releasing.reservationFound)
      exact .one rfl fun _ => refund_trueIn ofMandate rfl taskId
  | committedOnly _ _ _ _ _ ofCommit =>
      obtain ⟨given, isCommit⟩ := ofCommit
      exact (noCommit _ _ isCommit).elim
  | refundedOnly _ found _ _ taskId balance =>
      subst balance
      have ofMandate := stored _ (Table.mem_of_find found)
      exact .one rfl fun _ => refund_trueIn ofMandate rfl taskId
  | booked => exact .quiet rfl
  | registered => exact .quiet rfl
  | agentAdded => exact .quiet rfl
  | agentsRevoked => exact .quiet rfl
  | relinked => exact .quiet rfl
  | drained => exact .quiet rfl
  | issuedRoot => exact .quiet rfl
  | mandateRevoked => exact .quiet rfl
  | moved => exact .quiet rfl
  | resettled => exact .quiet rfl

end Events

/-! ## What the session shows -/

/-- The session shows what is left on the mandate of a held reservation. -/
def Db.ShownBy
    (db : Db)
    (sessionMandate : Id → Option Mandate)
    (reservationId : Id) :
    Prop :=
  ∀ row ∈ db.reservations.find reservationId,
    row.status = .held →
      sessionRemaining sessionMandate row =
        (db.mandates.find row.mandateId).map Mandate.remainingCents

instance
    (db : Db)
    (sessionMandate : Id → Option Mandate)
    (reservationId : Id) :
    Decidable (db.ShownBy sessionMandate reservationId) :=
  inferInstanceAs (Decidable (∀ row ∈ _, _))

/-- An attempt has one of the statuses. -/
def Db.AttemptIn
    (db : Db)
    (invocationId : Id)
    (statuses : List InvocationStatus) :
    Prop :=
  ∃ row ∈ db.invocations.find invocationId, row.status ∈ statuses

instance
    (db : Db)
    (invocationId : Id)
    (statuses : List InvocationStatus) :
    Decidable (db.AttemptIn invocationId statuses) :=
  inferInstanceAs (Decidable (∃ row ∈ _, _))

/--
A transaction that may commit a reservation runs in a session that shows its
mandate as it is.
-/
def Txn.Shown (db : Db) (views : Views) : Txn → Prop
  | .finalizeSuccess reservation invocation _ =>
      db.AttemptIn invocation.id [.executing, .executedOk] →
        db.ShownBy (views 0).mandates.find reservation.id
  | .commit reservation _ =>
      db.ShownBy (views 0).mandates.find reservation.id
  | .reconcileCommit invocation _ _ =>
      db.AttemptIn invocation.id reconcileFrom →
        ∀ reservationId ∈ invocation.reservationId,
          db.ShownBy (views 1).mandates.find reservationId
  | .postReconcile _ _ invocationId body _ =>
      body.outcome = "committed" →
        db.AttemptIn invocationId reconcileFrom →
          ∀ invocation ∈ (views 0).invocations.find invocationId,
            ∀ reservationId ∈ invocation.reservationId,
              db.ShownBy (views 3).mandates.find reservationId
  | _ => True

instance (db : Db) (views : Views) (txn : Txn) :
    Decidable (txn.Shown db views) :=
  match txn with
  | .finalizeSuccess .. | .reconcileCommit .. =>
      inferInstanceAs (Decidable (db.AttemptIn _ _ → _))
  | .commit .. => inferInstanceAs (Decidable (db.ShownBy _ _))
  | .postReconcile _ _ invocationId body _ =>
      inferInstanceAs
        (Decidable
          (body.outcome = "committed" →
            db.AttemptIn invocationId reconcileFrom → ∀ _ ∈ _, _))
  | .createPrincipal .. | .createAgent .. | .revokeAgent .. | .issueMandate ..
  | .revokeMandate .. | .reserve .. | .reserveAndCommit .. | .markExecuting ..
  | .markExecutedFail .. | .recoverReserved .. | .finalizeRelease ..
  | .release .. | .reconcileRelease .. | .attachStripeCustomer ..
  | .applyStripeEvent .. | .claimOutboxRows .. | .casTerminalFromSending ..
  | .requeueDead .. =>
      isTrue trivial

/-- The same for the steps of the system; `invoke` holds its mandate. -/
def Action.Shown (s : Sys) : Action → Prop
  | .txn ages body => body.Shown s.db (s.views ages)
  | .finish id _ =>
      ∀ call ∈ s.calls.find id,
        s.db.AttemptIn id [.executing, .executedOk] →
          s.db.ShownBy call.attempt.sessionMandate
            call.attempt.reservation.id
  | _ => True

instance (s : Sys) (action : Action) : Decidable (action.Shown s) :=
  match action with
  | .txn ages body =>
      inferInstanceAs (Decidable (body.Shown s.db (s.views ages)))
  | .finish .. => inferInstanceAs (Decidable (∀ call ∈ _, _))
  | .invoke .. | .mark _ | .dispatch _ | .providerReturns ..
  | .providerRaises .. | .fail _ =>
      isTrue trivial

/-- The rule that `finalize_success` is left to `invoke`. -/
abbrev Discipline.ownFinalizing : Discipline :=
  { Discipline.free with ownFinalize := True }

section Transactions

variable
  {env : Env}
  {db db' : Db}

/-- A settlement in a session that shows the mandate. -/
theorem Settled.trueIn
    {callbacks : FinalizeCallbacks}
    {payload : Option Receipt → Option InvokeResult}
    {sessionMandate : Id → Option Mandate}
    {reservation : Reservation}
    {invocation : Invocation}
    {receipt : Option Receipt}
    {receipts : Table Receipt}
    {outbox : Table Outbox}
    {accounts : Table Account}
    {claims : Table IdempotencyRecord}
    (settling :
      Settled env callbacks payload db reservation invocation receipt receipts
        outbox accounts claims)
    (stored : db.ReservesStored)
    (shown : db.ShownBy sessionMandate reservation.id)
    (sameMandates : db'.mandates = db.mandates) :
    (reservationEvent reservation .commit
        (sessionRemaining sessionMandate reservation)
        invocation.taskId).TrueIn db' :=
  commit_trueIn (stored _ (Table.mem_of_find settling.reservationFound))
    (shown reservation settling.reservationFound settling.held) sameMandates
    invocation.taskId

/-- The savepoint of `reconcile_commit`. -/
theorem reconcileCommitUnit_told
    {sessionMandate : Id → Option Mandate}
    {seenReservation : Option Reservation}
    {seen : Invocation}
    {evidence : Evidence}
    {kind : EvidenceKind}
    {callbacks : FinalizeCallbacks}
    {result : Option ReconciliationEvent}
    (stored : db.ReservesStored)
    (shown :
      db.AttemptIn seen.id reconcileFrom →
        ∀ given ∈ seenReservation, db.ShownBy sessionMandate given.id)
    (returned :
      exec
          (reconcileCommitUnit env sessionMandate seenReservation seen
            evidence kind callbacks)
          db =
        (.ok result, db')) :
    Told db db' := by
  obtain
    ⟨given, row, attempt, isGiven, rowId, attemptId, fromStatus, _,
      outcome⟩ :=
    reconcileCommitUnit_ok returned
  rcases outcome with
    ⟨receipt, receipts, outbox, accounts, claims, settling, rfl⟩ |
    ⟨receipts, outbox, accounts, claims, _, rfl⟩
  · have inStatus : db.AttemptIn seen.id reconcileFrom :=
      ⟨attempt, attemptId ▸ settling.invocationFound, fromStatus⟩
    have shownRow : db.ShownBy sessionMandate row.id := by
      rw [rowId]
      exact shown inStatus given isGiven
    exact .one rfl fun _ => settling.trueIn stored shownRow rfl
  · exact .quiet rfl

/-- The savepoint of `reconcile_release`. -/
theorem reconcileReleaseUnit_told
    {seenReservation : Option Reservation}
    {seen : Invocation}
    {evidence : Evidence}
    {result : Option ReconciliationEvent}
    (stored : db.ReservesStored)
    (returned :
      exec
          (reconcileReleaseUnit seenReservation seen evidence .didNotExecute)
          db =
        (.ok result, db')) :
    Told db db' := by
  obtain ⟨given, row, attempt, claims, _, releasing, _, _, _, _, rfl⟩ :=
    reconcileReleaseUnit_ok returned
  have ofMandate := stored _ (Table.mem_of_find releasing.reservationFound)
  exact .one rfl fun _ => refund_trueIn ofMandate rfl _

/-- The reservation that a finalizer looks up is the one of the attempt. -/
theorem shown_of_seen
    {sessionMandate : Id → Option Mandate}
    {view : Db}
    {seen : Invocation}
    (shown :
      ∀ reservationId ∈ seen.reservationId,
        db.ShownBy sessionMandate reservationId) :
    ∀ given ∈ seen.reservationId.bind view.reservations.find,
      db.ShownBy sessionMandate given.id := by
  intro given isGiven
  exact shown given.id (reservation_of_bind isGiven rfl)

/-- Every transaction whose session shows what is left tells it. -/
theorem txn_told
    {s : Sys}
    {ages : List Nat}
    {txn : Txn}
    {entries : List Entry}
    (kept : s.Kept env)
    (stored : s.db.ReservesStored)
    (loaded : txn.Loaded s)
    (shown : txn.Shown s.db (s.views ages))
    (returned :
      exec (txn.body env (s.views ages)) s.db = (.ok entries, db')) :
    Told s.db db' := by
  have effect
      (noFinalize : txn.OwnFinalize)
      (noCommit : ∀ given taskId, txn ≠ .commit given taskId)
      (notReconciles : txn.reconciles = false) :
      Told s.db db' := by
    have obeyed : Discipline.ownFinalizing.Obeyed txn :=
      ⟨False.elim, False.elim, False.elim, False.elim, False.elim,
        fun _ => noFinalize⟩
    apply (txn_effect kept loaded obeyed returned).told stored trivial _ _
      (txn_noEvidence notReconciles returned)
    · intro id isFinish
      cases isFinish
    · intro given taskId isCommit
      cases isCommit
      exact noCommit given taskId rfl
  cases txn with
  | finalizeSuccess reservation invocation callbacks =>
      obtain ⟨_, run, rfl⟩ := map_ok returned
      rcases onFinalizeLost_ok run with ⟨_, rfl⟩ | finished
      · exact .quiet rfl
      · obtain
          ⟨row, attempt, _, _, _, _, _, settling, rowId, attemptId,
            fromStatus, _, _, _, rfl⟩ :=
          successUnit_ok finished
        have shownRow :
            s.db.ShownBy (s.views ages 0).mandates.find row.id := by
          rw [rowId]
          exact shown
            ⟨attempt, attemptId ▸ settling.invocationFound, fromStatus⟩
        exact .one rfl fun _ => settling.trueIn stored shownRow rfl
  | commit reservation taskId =>
      obtain ⟨_, run, rfl⟩ := map_ok returned
      rcases commit_ok run with rfl | ⟨row, rowId, found, held, rfl⟩
      · exact .quiet rfl
      · have ofMandate := stored _ (Table.mem_of_find found)
        have isShown := shown row (rowId ▸ found) held
        exact .one rfl fun _ => commit_trueIn ofMandate isShown rfl taskId
  | reconcileCommit invocation evidence callbacks =>
      obtain ⟨_, run, rfl⟩ := map_ok returned
      rcases reconcileCommit_ok run with ⟨_, rfl⟩ | finished
      · exact .quiet rfl
      · exact
          reconcileCommitUnit_told stored
            (fun inStatus => shown_of_seen (shown inStatus)) finished
  | reconcileRelease invocation evidence =>
      obtain ⟨_, run, rfl⟩ := map_ok returned
      rcases reconcileRelease_ok run with ⟨_, rfl⟩ | finished
      · exact .quiet rfl
      · exact reconcileReleaseUnit_told stored finished
  | postReconcile actor mayAct invocationId body draw =>
      obtain ⟨_, run, rfl⟩ := map_ok returned
      rcases postReconcile_ok run with ⟨_, rfl⟩ | ⟨seen, found, posted⟩
      · exact .quiet rfl
      · have seenId : seen.id = invocationId := Table.key_of_find found
        cases posted with
        | committed outcome _ finished =>
            apply reconcileCommitUnit_told stored _ finished
            rw [seenId]
            intro inStatus
            exact shown_of_seen (shown outcome inStatus seen found)
        | released _ finished =>
            exact reconcileReleaseUnit_told stored finished
  | _ => exact effect trivial (by simp) rfl

end Transactions

/-! ## Every run -/

/-- The answer of a finished call tells what its commit event tells. -/
def InvokeCall.Tells (s : Sys) (call : InvokeCall) : Prop :=
  ∀ result,
    call.state = .finished result →
      result.ok = true →
        ∃ older newer event,
          [newer, older] <:+: s.states ∧
            newer.ledgerEvents = older.ledgerEvents ++ [event] ∧
            event.kind = .commit ∧
            event.reservationId = some call.attempt.reservation.id ∧
            event.TrueIn newer ∧
            result.remainingCents = event.remainingAfter

/-- Every commit so far has told the balances, and every answer as well. -/
structure Sys.TellsBalances (s : Sys) : Prop where
  states : s.states.IsChain fun newer older => Told older newer
  calls : ∀ call ∈ s.calls.rows, call.Tells s

section Runs

variable
  {env : Env}
  {s s' : Sys}
  {action : Action}

/-- What was told stays told. -/
theorem InvokeCall.Tells.later
    {call : InvokeCall}
    (tells : call.Tells s)
    (goesOn : s.states <:+ s'.states) :
    call.Tells s' := by
  intro result isFinished isOk
  obtain ⟨older, newer, event, neighbours, rest⟩ :=
    tells result isFinished isOk
  exact ⟨older, newer, event, neighbours.trans goesOn.isInfix, rest⟩

/-- A commit that tells the balances, with the calls as they were. -/
theorem Sys.TellsBalances.commit
    {db' : Db}
    (tells : s.TellsBalances)
    (told : Told s.db db')
    (entries : List Entry) :
    (s.commit db' entries).TellsBalances where
  states := List.isChain_cons_cons.mpr ⟨told, tells.states⟩
  calls call member :=
    (tells.calls call member).later (List.suffix_cons db' s.states)

/-- A call that goes on, and is not finished with success. -/
theorem Sys.TellsBalances.advance
    {call : InvokeCall}
    {state : CallState}
    (tells : s.TellsBalances)
    (noSuccess : ∀ result, state = .finished result → result.ok = false) :
    (s.advance call state).TellsBalances where
  states := tells.states
  calls one member := by
    rcases Table.mem_put member with rfl | ⟨inOld, _⟩
    · intro result isFinished isOk
      rw [noSuccess result isFinished] at isOk
      cases isOk
    · exact tells.calls one inOld

/-- A session that shows anything of a mandate shows the one of its call. -/
theorem sessionRemaining_attempt
    {attempt : Attempt}
    {row : Reservation}
    {remaining : Cents}
    (shows :
      sessionRemaining attempt.sessionMandate row = some remaining) :
    some attempt.mandate.remainingCents = some remaining := by
  obtain ⟨mandate, isMandate, rfl⟩ := Option.map_eq_some_iff.mp shows
  unfold Attempt.sessionMandate at isMandate
  split at isMandate
  · cases isMandate
    rfl
  · cases isMandate

/-- A transaction of `invoke` before its end tells the truth. -/
theorem Effect.told_of_call
    {db db' : Db}
    {entries : List Entry}
    (effect : Effect env .ownFinalizing .call db entries db')
    (stored : db.ReservesStored)
    (noEvidence : ∀ event, .reconciled event ∉ entries) :
    Told db db' := by
  apply effect.told stored trivial _ _ noEvidence
  · intro id isFinish
    cases isFinish
  · intro given taskId isCommit
    cases isCommit

/-- Every step of `invoke` in a session that shows its mandate tells. -/
theorem Stepped.tells
    (stepped : Stepped env .ownFinalizing s action s')
    (notTxn : ∀ ages txn, action ≠ .txn ages txn)
    (tells : s.TellsBalances)
    (stored : s.db.ReservesStored)
    (shown : action.Shown s) :
    s'.TellsBalances := by
  have failed
      {result : InvokeResult}
      (notOk : result.ok = false) :
      ∀ given, CallState.finished result = .finished given →
        given.ok = false := by
    rintro _ ⟨⟩
    exact notOk
  cases stepped with
  | txn => exact (notTxn _ _ rfl).elim
  | answered effect =>
      exact tells.commit (effect.told_of_call stored (by simp)) _
  | @began _ _ _ _ attempt calls db' _ effect _ inserted =>
      have tells' :=
        tells.commit (effect.told_of_call stored (by simp))
          [.reserved attempt.invocation.id]
      refine ⟨tells'.states, ?_⟩
      intro call member
      rcases (Table.mem_insert inserted).mp member with inOld | rfl
      · exact tells'.calls call inOld
      · intro result isFinished
        cases isFinished
  | marked =>
      refine Sys.TellsBalances.advance (tells.commit ?_ _) ?_
      · exact .quiet rfl
      · intro result isFinished
        cases isFinished
  | unmarked _ notOk =>
      exact (tells.commit (.quiet rfl) _).advance (failed notOk)
  | dispatched =>
      refine Sys.TellsBalances.advance ?_ ?_
      · exact ⟨tells.states, tells.calls⟩
      · intro result isFinished
        cases isFinished
  | returned =>
      refine Sys.TellsBalances.advance ?_ ?_
      · exact ⟨tells.states, tells.calls⟩
      · intro result isFinished
        cases isFinished
  | raised =>
      apply tells.advance
      intro result isFinished
      cases isFinished
  | failed _ notOk effect =>
      exact
        (tells.commit (effect.told_of_call stored (by simp)) _).advance
          (failed notOk)
  | lost _ notOk =>
      exact (tells.commit (.quiet rfl) _).advance (failed notOk)
  | @finished attempt toolResult draw row invocation remaining receipt receipts
      outbox accounts claims call settling rowId sameId fromStatus _ _
      balance =>
      subst balance
      have shownRow : s.db.ShownBy attempt.sessionMandate row.id := by
        rw [rowId]
        exact
          shown _ call
            ⟨invocation, sameId ▸ settling.invocationFound, fromStatus⟩
      have isTrue (db' : Db) (same : db'.mandates = s.db.mandates) :=
        settling.trueIn stored shownRow same
      have told :
          Told s.db
            (settledDb s.db row invocation .committed
              (sessionRemaining attempt.sessionMandate row) receipts outbox
              accounts claims []) :=
        .one rfl fun _ => isTrue _ rfl
      have tells' := tells.commit told []
      refine ⟨tells'.states, ?_⟩
      intro one member
      rcases Table.mem_put member with rfl | ⟨inOld, _⟩
      · intro result isFinished _
        cases isFinished
        obtain ⟨mandate, _, isRemaining⟩ := isTrue _ rfl
        refine
          ⟨s.db, _, _, List.infix_append [] _ s.past, rfl, rfl, ?_,
            isTrue _ rfl, ?_⟩
        · exact congrArg some rowId
        · exact (sessionRemaining_attempt isRemaining).trans isRemaining.symm
      · exact tells'.calls one inOld

/-- Every step in a session that shows its mandate tells the balances. -/
theorem Sys.TellsBalances.step
    (tells : s.TellsBalances)
    (kept : s.Kept env)
    (stored : s.db.ReservesStored)
    (shown : action.Shown s)
    (taken : step env s action = some s') :
    s'.TellsBalances := by
  have ofInvoke
      (notTxn : ∀ ages txn, action ≠ .txn ages txn)
      (allowed : Discipline.ownFinalizing.Allows action) :
      s'.TellsBalances :=
    (stepped kept allowed taken).tells notTxn tells stored shown
  cases action with
  | txn ages txn =>
      simp only [Crossing.step] at taken
      split at taken
      · rename_i ready
        obtain ⟨⟨entries, db'⟩, committed, rfl⟩ :=
          Option.map_eq_some_iff.mp taken
        have told :=
          txn_told kept stored ready.2 shown (commit_eq_some.mp committed)
        exact tells.commit told entries
      · cases taken
  | _ => exact ofInvoke (by simp) trivial

/--
In every run whose sessions show the mandates that they commit for, every
reserve, commit, release and escrow event tells what its commit leaves on the
mandate, and an `invoke` that has won answers with what its event tells.
-/
theorem balances_told
    (reachable : Reachable env (fun s action => action.Shown s) s) :
    s.states.IsChain (fun newer older => Told older newer) ∧
      ∀ call ∈ s.calls.rows, call.Tells s := by
  have tells : s.TellsBalances := by
    refine Transition.Reachable.invariant ?_ ?_ reachable
    · rintro _ rfl
      refine ⟨List.isChain_singleton _, ?_⟩
      intro call member
      cases member
    · rintro s s' isReachable tells ⟨action, shown, taken⟩
      exact
        tells.step (reachable_kept isReachable)
          (reachable_balanced isReachable).ofMandate shown taken
  exact ⟨tells.states, tells.calls⟩

/-- A call from its reservation to its settlement tells the balances. -/
theorem balances_told_settle :
    ∃ s,
      Transition.play (step .plain) (fun s action => action.Shown s) Sys.start
          (deploy ++ settle) =
        some s ∧
      s.db.ledgerEvents.length = 2 ∧
      s.states.IsChain fun newer older => Told older newer := by
  have runs :
      (Transition.play (step .plain) (fun s action => action.Shown s) Sys.start
          (deploy ++ settle)).map
          (fun s => s.db.ledgerEvents.length) =
        some 2 := by
    decide +kernel
  obtain ⟨s, played, length⟩ := Option.map_eq_some_iff.mp runs
  have reachable : Reachable .plain (fun s action => action.Shown s) s :=
    ⟨Sys.start, rfl, Transition.later_of_play played⟩
  exact ⟨s, played, length, (balances_told reachable).1⟩

/-- A new event of a commit that tells the balances is true. -/
theorem Told.trueIn
    {db db' : Db}
    {event : LedgerEvent}
    (told : Told db db')
    (appended : db'.ledgerEvents = db.ledgerEvents ++ [event])
    (notDeny : event.kind ≠ .deny) :
    event.TrueIn db' := by
  obtain ⟨added, isAdded, areTrue⟩ := told
  have same : added = [event] :=
    List.append_cancel_left (isAdded.symm.trans appended)
  exact areTrue event (by simp [same]) notDeny

/-- A second call reserves while the provider works for the first one. -/
def reserveBetween : List Action :=
  [.invoke [] call (drawTen 1), .mark 1, .dispatch 1,
    .invoke [] { call with idempotencyKey := some "other" } (drawTen 2),
    .providerReturns 1 "found", .finish 1 (drawFinish 1)]

/-- The commit event of the first call. -/
def lateCommit : LedgerEvent where
  principalId := 1
  mandateId := 1
  reservationId := some 1
  taskId := some 1
  kind := .commit
  amountCents := 10
  remainingAfter := some 90
  idempotencyKey := some "key"
  note := none

/-- The mandate has eighty cents left, the event and the answer tell ninety. -/
theorem lateCommit_untrue :
    ∃ s,
      Reachable .plain (fun _ _ => True) s ∧
        lateCommit ∈ s.db.ledgerEvents ∧
        (s.db.mandates.find 1).map Mandate.remainingCents = some 80 ∧
        (¬s.states.IsChain fun newer older => Told older newer) ∧
        ∃ call ∈ s.calls.rows, ∃ result,
          call.state = .finished result ∧
            result.ok = true ∧
            result.remainingCents = some 90 := by
  have runs :
      (Transition.play (step .plain) (fun _ _ => True) Sys.start
          (deploy ++ reserveBetween)).any
          (fun s =>
            (s.db.mandates.find 1).map Mandate.remainingCents = some 80 &&
              s.past.head?.any (fun older =>
                s.db.ledgerEvents = older.ledgerEvents ++ [lateCommit]) &&
              s.calls.rows.any fun call =>
                match call.state with
                | .finished result =>
                    result.ok && result.remainingCents = some 90
                | _ => false) =
        true := by
    decide +kernel
  obtain ⟨s, played, facts⟩ := (Option.any_eq_true _ _).mp runs
  simp only [Bool.and_eq_true, decide_eq_true_eq] at facts
  obtain ⟨⟨remaining, appended⟩, answered⟩ := facts
  obtain ⟨older, isOlder, appended⟩ := (Option.any_eq_true _ _).mp appended
  have isAppended := of_decide_eq_true appended
  refine
    ⟨s, ⟨Sys.start, rfl, Transition.later_of_play played⟩, ?_, remaining,
      ?_, ?_⟩
  · rw [isAppended]
    simp
  · intro chain
    obtain ⟨past, isPast⟩ := List.head?_eq_some_iff.mp isOlder
    rw [Sys.states, isPast] at chain
    have told := (List.isChain_cons_cons.mp chain).1
    obtain ⟨row, found, isRemaining⟩ := told.trueIn isAppended (by decide)
    rw [show lateCommit.mandateId = 1 from rfl] at found
    rw [found] at remaining
    simp only [Option.map_some, Option.some.injEq] at remaining
    rw [remaining] at isRemaining
    cases isRemaining
  · obtain ⟨call, member, isFinished⟩ := List.any_eq_true.mp answered
    refine ⟨call, member, ?_⟩
    split at isFinished
    · rename_i result state
      exact ⟨result, state, by simpa using isFinished⟩
    · cases isFinished

end Runs

end Crossing

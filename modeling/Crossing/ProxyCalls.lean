import Crossing.ProxyInvoke
import Crossing.ReconcileSpec

namespace Crossing

open Relational
open Relational.Transaction

/-!
# A proxy whose new ids are new

When the ids that a proxy draws are new, none of its calls raises: one whose
reservation is made goes on to the answer of the provider and to its
finalization, and any other is denied.  So every line of well-typed requests is
answered, whatever the mandate allows and the provider answers.
-/

/-! ## New ids -/

/-- The ids that a call draws to reserve and to finish are free. -/
structure CallDraw.FreshToReserve (drawn : CallDraw) (db : Db) : Prop where
  reservation : db.reservations.find drawn.draw.newReservationId = none
  invocation : db.invocations.find drawn.draw.newInvocationId = none
  receipt : db.receipts.find drawn.finish.newReceiptId = none
  outbox : db.billingOutbox.find drawn.finish.newOutboxId = none
  unissued :
    ∀ row ∈ db.receipts.rows,
      row.reservationId ≠ some drawn.draw.newReservationId

/-- The ids that a call draws are free. -/
structure CallDraw.Fresh (drawn : CallDraw) (db : Db) : Prop
    extends drawn.FreshToReserve db where
  task : db.tasks.find drawn.draw.newTaskId = none

/-- Two calls draw different ids. -/
structure CallDraw.Apart (drawn other : CallDraw) : Prop where
  task : drawn.draw.newTaskId ≠ other.draw.newTaskId
  reservation : drawn.draw.newReservationId ≠ other.draw.newReservationId
  invocation : drawn.draw.newInvocationId ≠ other.draw.newInvocationId
  receipt : drawn.finish.newReceiptId ≠ other.finish.newReceiptId
  outbox : drawn.finish.newOutboxId ≠ other.finish.newOutboxId

/-- The ids of calls that draw others stay free. -/
def CallDraw.Leaves (drawn : CallDraw) (db db' : Db) : Prop :=
  ∀ other, drawn.Apart other → other.Fresh db → other.Fresh db'

section Calls

variable
  {env : Env}
  {db db' : Db}
  {request : InvokeRequest}
  {drawn other : CallDraw}
  {mandate : Mandate}
  {price : Cents}

/-- Ids stay free from one database to the next. -/
theorem CallDraw.Leaves.trans
    {between : Db}
    (first : drawn.Leaves db between)
    (second : drawn.Leaves between db') :
    drawn.Leaves db db' :=
  fun other apart fresh => second other apart (first other apart fresh)

/-- What a call books before its reservation takes no other id. -/
theorem Booked.leaves
    {taskId : Id}
    {booked : Db}
    (books : Booked request drawn.draw mandate db taskId booked) :
    drawn.Leaves db booked := by
  obtain ⟨nonces, tasks, _, taskAdded, rfl⟩ := books.shape
  intro other apart fresh
  refine { fresh with task := ?_ }
  cases given : request.taskId with
  | some id =>
      rw [(taskAdded.given id given).2]
      exact fresh.task
  | none =>
      exact (Table.find_insert_of_ne (taskAdded.none given).2 apart.task).trans
        fresh.task

/-- What a call books before its reservation takes no id it draws later. -/
theorem Booked.freshToReserve
    {taskId : Id}
    {booked : Db}
    (books : Booked request drawn.draw mandate db taskId booked)
    (fresh : drawn.Fresh db) :
    drawn.FreshToReserve booked := by
  obtain ⟨nonces, tasks, _, _, rfl⟩ := books.shape
  exact { fresh with }

/-- A call whose nonce has not been used and whose ids are new can book. -/
theorem exists_booked
    (fresh : drawn.Fresh db)
    (unused : nonceClash db mandate.principalId request.nonce = false) :
    ∃ taskId booked,
      Booked request drawn.draw mandate db taskId booked := by
  have nonces :
      ∃ nonces,
        NonceAdded db mandate.principalId request.nonce nonces := by
    cases given : truthy request.nonce with
    | none => exact ⟨db.usedNonces, by simp [given], fun _ => rfl⟩
    | some text =>
        have free : db.usedNonces.find (mandate.principalId, text) = none := by
          simpa [nonceClash, given] using unused
        obtain ⟨nonces, inserted⟩ :
            ∃ nonces,
              db.usedNonces.insert? ⟨mandate.principalId, text⟩ =
                some nonces :=
          Table.insert?_of_fresh free
        refine ⟨nonces, ?_, by simp [given]⟩
        intro other same
        cases given.symm.trans same
        exact inserted
  have tasks :
      ∃ chosen tasks,
        TaskAdded db mandate request.taskId drawn.draw.newTaskId chosen
          tasks := by
    cases given : request.taskId with
    | some id => exact ⟨id, db.tasks, by simp, by simp⟩
    | none =>
        obtain ⟨tasks, inserted⟩ :
            ∃ tasks,
              db.tasks.insert?
                  { id := drawn.draw.newTaskId
                    principalId := mandate.principalId
                    agentId := some mandate.agentId } =
                some tasks :=
          Table.insert?_of_fresh fresh.task
        exact ⟨_, tasks, by simp, fun _ => ⟨rfl, inserted⟩⟩
  obtain ⟨nonces, nonceAdded⟩ := nonces
  obtain ⟨chosen, tasks, taskAdded⟩ := tasks
  exact ⟨chosen, _, nonces, tasks, nonceAdded, taskAdded, rfl⟩

/-! ## The reservation -/

/-- An attempt that its call has reserved, and the free ids to finish it. -/
structure Attempt.Ready (attempt : Attempt) (drawn : CallDraw) (db : Db) :
    Prop where
  invocationFound :
    db.invocations.find attempt.invocation.id = some attempt.invocation
  reserved : attempt.invocation.status = .reserved
  reservationFound :
    db.reservations.find attempt.reservation.id = some attempt.reservation
  held : attempt.reservation.status = .held
  isNew : attempt.reservation.id = drawn.draw.newReservationId
  receipt : db.receipts.find drawn.finish.newReceiptId = none
  outbox : db.billingOutbox.find drawn.finish.newOutboxId = none
  unissued :
    ∀ row ∈ db.receipts.rows,
      row.reservationId ≠ some attempt.reservation.id

/-- What the first transaction of a call leaves. -/
structure Began (drawn : CallDraw) (db : Db) (begun : Begun) (db' : Db) :
    Prop where
  leaves : drawn.Leaves db db'
  ready : ∀ attempt, begun = .reserved attempt → attempt.Ready drawn db'

/-- A call that is answered has reserved nothing. -/
theorem Began.answered
    {result : InvokeResult}
    (leaves : drawn.Leaves db db') :
    Began drawn db (.answered result) db' where
  leaves := leaves
  ready _ isReserved := nomatch isReserved

/-- A denial and a replay of `reserve_and_commit` are answered. -/
theorem reserveOrAnswer_answers
    {view : Db}
    {requestHash : String}
    {taskId : Option Id}
    {exception : Raised}
    (raised :
      exec
          (reserveAndCommit view drawn.draw.debitNow mandate price
            request.idempotencyKey request.nonce request.tool request.server
            (some requestHash) taskId drawn.draw.newReservationId
            drawn.draw.newInvocationId)
          db =
        (.error exception, db'))
    (isAnswered :
      (∃ outcome, exception = denied outcome) ∨
        ∃ record, exception = .idempotencyReplay record)
    (leaves : drawn.Leaves db db') :
    Returns
      (reserveOrAnswer view mandate price request requestHash taskId
        drawn.draw)
      db (Began drawn db) := by
  have ran := reserveOrAnswer_raised raised
  rcases isAnswered with ⟨outcome, rfl⟩ | ⟨record, rfl⟩
  · exact ⟨_, db', ran, .answered leaves⟩
  · exact ⟨_, db', ran, .answered leaves⟩

/-- With new ids, a call under a stored mandate reserves or is answered. -/
theorem reserveOrAnswer_returns
    {view : Db}
    {row : Mandate}
    {requestHash : String}
    {taskId : Option Id}
    (stored : db.mandates.find mandate.id = some row)
    (fresh : drawn.FreshToReserve db) :
    Returns
      (reserveOrAnswer view mandate price request requestHash taskId
        drawn.draw)
      db (Began drawn db) := by
  have unchanged : drawn.Leaves db db := fun _ _ free => free
  cases taken : claimOf db mandate.principalId request.idempotencyKey with
  | some record =>
      refine reserveOrAnswer_answers (reserveAndCommit_taken stored taken) ?_
        unchanged
      rcases existingClaim_cases
          (claimOf view mandate.principalId request.idempotencyKey)
          (some requestHash) with
        ⟨outcome, isDenied, _⟩ | isReplay
      · exact .inl ⟨outcome, isDenied⟩
      · exact .inr isReplay
  | none =>
      by_cases negative : price < 0
      · exact reserveOrAnswer_answers
          (reserveAndCommit_negative stored taken negative)
          (.inl ⟨_, rfl⟩) unchanged
      have nonnegative : 0 ≤ price := not_lt.mp negative
      cases passes : debitGuard drawn.draw.debitNow price row with
      | false =>
          refine reserveOrAnswer_answers
            (reserveAndCommit_refused stored taken nonnegative passes)
            (.inl ⟨_, rfl⟩) ?_
          exact fun _ _ free => { free with }
      | true =>
          obtain ⟨claims, added⟩ :=
            exists_claimAdded (some requestHash) taken
          let reservation :=
            heldReservation drawn.draw.newReservationId row price
              request.idempotencyKey request.nonce
          let invocation :=
            reservedInvocation drawn.draw.newInvocationId
              (debited price row) reservation taskId request.tool
              request.server (some requestHash) request.idempotencyKey price
          obtain ⟨reservations, isReservations⟩ :
              ∃ reservations,
                db.reservations.insert? reservation = some reservations :=
            Table.insert?_of_fresh fresh.reservation
          obtain ⟨invocations, isInvocations⟩ :
              ∃ invocations,
                db.invocations.insert? invocation = some invocations :=
            Table.insert?_of_fresh fresh.invocation
          have opened :
              exec
                  (reserveAndCommit view drawn.draw.debitNow mandate price
                    request.idempotencyKey request.nonce request.tool
                    request.server (some requestHash) taskId
                    drawn.draw.newReservationId drawn.draw.newInvocationId)
                  db =
                (.ok (reservation, invocation, debited price row),
                  openedDb db row reservation taskId reservations invocations
                    claims) := by
            rw [reserveAndCommit_debitable stored added nonnegative passes,
              isReservations, isInvocations]
          refine ⟨_, _, reserveOrAnswer_opened opened, ?_, ?_⟩
          · intro other apart free
            exact
              { free with
                reservation :=
                  (Table.find_insert_of_ne isReservations
                    apart.reservation).trans free.reservation
                invocation :=
                  (Table.find_insert_of_ne isInvocations
                    apart.invocation).trans free.invocation }
          · intro attempt isAttempt
            cases isAttempt
            exact
              { invocationFound :=
                  Table.find_of_mem
                    ((Table.mem_insert isInvocations).mpr (.inr rfl))
                reserved := rfl
                reservationFound :=
                  Table.find_of_mem
                    ((Table.mem_insert isReservations).mpr (.inr rfl))
                held := rfl
                isNew := rfl
                receipt := fresh.receipt
                outbox := fresh.outbox
                unissued := fresh.unissued }

/-! ## From the reservation to the answer -/

/-- The finalization of an attempt that is executing returns. -/
theorem successUnit_returns
    {sessionMandate : Id → Option Mandate}
    {reservation : Reservation}
    {invocation row : Invocation}
    {callbacks : FinalizeCallbacks}
    {args : ReceiptArgs}
    {bill : BillingArgs}
    (reservationFound :
      db.reservations.find reservation.id = some reservation)
    (held : reservation.status = .held)
    (invocationFound : db.invocations.find invocation.id = some row)
    (executing : row.status = .executing)
    (unissued :
      ∀ row ∈ db.receipts.rows,
        row.reservationId ≠ some reservation.id)
    (receiptFn : callbacks.receiptFn = some args)
    (ofReservation : args.reservationId = some reservation.id)
    (billingFn : callbacks.billingFn = some bill)
    (freshReceipt : db.receipts.find args.newId = none)
    (freshOutbox : db.billingOutbox.find bill.newId = none) :
    Returns (successUnit env sessionMandate reservation invocation callbacks)
      db fun _ _ => True := by
  refine Returns.bind (updateRow_returns reservationFound (by simp [held]) ?_)
  refine Returns.bind (.orRaise rfl ?_)
  refine Returns.bind
    (updateRow_returns invocationFound (by simp [executing]) ?_)
  refine Returns.bind (.orRaise rfl ?_)
  refine Returns.bind (.modify ?_)
  unfold runReceiptFn
  rw [receiptFn]
  refine Returns.bind (.map (issue_returns ?_ freshReceipt ?_))
  · intro row member other isOther
    cases ofReservation.symm.trans isOther
    exact unissued row member
  · intro receipts
    unfold runBillingFn
    rw [billingFn]
    refine Returns.bind (.map (enqueue_returns freshOutbox ?_))
    intro row outbox accounts
    exact Returns.bind
      (completeLogicalOperation_returns fun _ => .pure trivial)

/-- The dispatch of a reserved attempt wins. -/
theorem Attempt.Ready.mark_returns
    {attempt : Attempt}
    (ready : attempt.Ready drawn db) :
    Returns (invokeMark attempt) db fun answer db' =>
      answer = none ∧ db' = movedDb db attempt.invocation .executing := by
  refine Returns.bind (Returns.bind ?_)
  refine updateRow_returns ready.invocationFound (by simp [ready.reserved]) ?_
  exact .pure (.pure ⟨rfl, rfl⟩)

/-- The finalization of a dispatched attempt returns. -/
theorem Attempt.Ready.finish_returns
    {attempt : Attempt}
    (ready : attempt.Ready drawn db)
    (toolResult : JsonText) :
    Returns (invokeFinish env attempt toolResult drawn.finish)
      (movedDb db attempt.invocation .executing) fun _ _ => True := by
  have finalized :
      Returns
        (finalizeSuccess env attempt.sessionMandate attempt.reservation
          attempt.invocation (attempt.callbacks toolResult drawn.finish))
        (movedDb db attempt.invocation .executing) fun _ _ => True := by
    apply Returns.tryCatch_savepoint
    apply successUnit_returns
    · exact ready.reservationFound
    · exact ready.held
    · exact Table.find_put_self ready.invocationFound
    · rfl
    · exact ready.unissued
    · rfl
    · rfl
    · rfl
    · exact ready.receipt
    · exact ready.outbox
  obtain ⟨result, after, ran, _⟩ := finalized
  refine Returns.bind ⟨result, after, ran, ?_⟩
  dsimp only
  split
  · exact .pure trivial
  · exact .pure trivial

/-- The finalization of a call takes the ids that the call draws. -/
theorem invokeFinish_leaves
    {attempt : Attempt}
    {toolResult : JsonText}
    {result : InvokeResult}
    (ofCall : attempt.reservation.id = drawn.draw.newReservationId)
    (returned :
      exec (invokeFinish env attempt toolResult drawn.finish) db =
        (.ok result, db')) :
    drawn.Leaves db db' := by
  rcases invokeFinish_ok returned with
    ⟨_, rfl⟩ |
    ⟨row, invocation, receipt, receipts, outbox, accounts, claims, settled,
      _, _, _, _, _, rfl⟩
  · exact fun _ _ fresh => fresh
  intro other apart fresh
  have freeReceipt :
      receipts.find other.finish.newReceiptId = none ∧
        ∀ row ∈ receipts.rows,
          row.reservationId ≠ some other.draw.newReservationId := by
    cases settled.receiptStep with
    | skipped noReceipt => exact ⟨fresh.receipt, fresh.unissued⟩
    | known member ofReservation => exact ⟨fresh.receipt, fresh.unissued⟩
    | issued given unissued inserted =>
        cases given
        refine ⟨?_, ?_⟩
        · exact (Table.find_insert_of_ne inserted apart.receipt).trans
            fresh.receipt
        · intro row member
          rcases (Table.mem_insert inserted).mp member with old | rfl
          · exact fresh.unissued row old
          · intro same
            exact apart.reservation (ofCall.symm.trans (Option.some.inj same))
  have freeOutbox : outbox.find other.finish.newOutboxId = none := by
    cases settled.billingStep with
    | skipped nothing => exact fresh.outbox
    | already member ofReceipt => exact fresh.outbox
    | enqueued given isAccount unbilled inserted =>
        cases given
        exact (Table.find_insert_of_ne inserted apart.outbox).trans
          fresh.outbox
  exact
    { task := fresh.task
      reservation := Table.find_put_none _ fresh.reservation
      invocation := Table.find_put_none _ fresh.invocation
      receipt := freeReceipt.1
      outbox := freeOutbox
      unissued := freeReceipt.2 }

/-- A move of an attempt takes no id. -/
theorem movedDb_leaves
    (invocation : Invocation)
    (toStatus : InvocationStatus) :
    drawn.Leaves db (movedDb db invocation toStatus) :=
  fun _ _ fresh =>
    { fresh with invocation := Table.find_put_none _ fresh.invocation }

/-- A reserved call comes back, whatever its provider answers. -/
theorem Attempt.Ready.complete_returns
    {attempt : Attempt}
    (ready : attempt.Ready drawn db) :
    Returns (attempt.complete env drawn) db
      fun _ db' => drawn.Leaves db db' := by
  obtain ⟨_, _, markRun, rfl, rfl⟩ := ready.mark_returns
  refine Returns.bind ⟨_, _, markRun, ?_⟩
  have moved : drawn.Leaves db (movedDb db attempt.invocation .executing) :=
    movedDb_leaves attempt.invocation .executing
  dsimp only
  cases drawn.provider with
  | error error =>
      have found :
          (movedDb db attempt.invocation .executing).invocations.find
              attempt.invocation.id =
            some { attempt.invocation with status := .executing } :=
        Table.find_put_self ready.invocationFound
      refine Returns.bind (.map (updateRow_returns found (by simp) ?_))
      exact .pure (moved.trans (movedDb_leaves _ .executedFail))
  | ok toolResult =>
      obtain ⟨result, after, ran, _⟩ := ready.finish_returns toolResult
      exact ⟨result, after, ran,
        moved.trans (invokeFinish_leaves ready.isNew ran)⟩

/-! ## The whole call -/

/-- With new ids, the first transaction of a call returns. -/
theorem invokeBegin_returns (fresh : drawn.Fresh db) :
    Returns (invokeBegin env (fun _ => db) request drawn.draw) db
      (Began drawn db) := by
  have unchanged : drawn.Leaves db db := fun _ _ free => free
  rw [invokeBegin_eq]
  cases decided : gate env (fun _ => db) request drawn.draw with
  | denied principalId mandateId outcome remaining =>
      obtain ⟨answer, denials, ran, _⟩ :=
        exec_deny_returned principalId mandateId outcome remaining
          request.idempotencyKey db
      refine .map ⟨answer, _, ran, .answered ?_⟩
      exact fun _ _ free => { free with }
  | waits mandate outcome => exact .pure (.answered unchanged)
  | cached result => exact .pure (.answered unchanged)
  | passes mandate price =>
      have passed := gate_passes_iff.mp decided
      obtain ⟨taskId, booked, books⟩ := exists_booked fresh passed.nonceFree
      have stored : booked.mandates.find mandate.id = some mandate := by
        have found := (loadLiveMandate_ok passed.live).1
        have sameId : mandate.id = request.mandateId :=
          Table.key_of_find found
        rw [books.others.1, sameId]
        exact found
      obtain ⟨begun, db', ran, began⟩ :=
        reserveOrAnswer_returns stored (books.freshToReserve fresh)
      exact ⟨begun, db', bookAndReserve_iff.mpr ⟨taskId, booked, books, ran⟩,
        books.leaves.trans began.leaves, began.ready⟩

/-- With new ids a call comes back, and it takes no other ids. -/
theorem invokeAlone_returns (fresh : drawn.Fresh db) :
    Returns (invokeAlone env request drawn) db
      fun _ db' => drawn.Leaves db db' := by
  refine Returns.bind (.get ?_)
  obtain ⟨begun, between, beginRun, began⟩ := invokeBegin_returns fresh
  refine Returns.bind ⟨begun, between, beginRun, ?_⟩
  cases begun with
  | answered result => exact .pure began.leaves
  | reserved attempt =>
      obtain ⟨result, db', ran, leaves⟩ :=
        (began.ready attempt rfl).complete_returns
      exact ⟨result, db', ran, began.leaves.trans leaves⟩

end Calls

/-! ## All calls of a proxy -/

/-- The ids of the calls still to be made are free. -/
def NewIds (world : ProxyWorld) (session : ProxySession) : Prop :=
  ∀ call ≥ session.calls, (world.draws call).Fresh session.db

/-- With new ids the calls of a proxy come back, and the ids stay new. -/
theorem comesBack_of_newIds
    {world : ProxyWorld}
    (mandateId : Id)
    (apart :
      ∀ earlier later, earlier < later →
        (world.draws earlier).Apart (world.draws later)) :
    ComesBack world mandateId (NewIds world) := by
  intro session request newIds _
  obtain ⟨result, db', ran, leaves⟩ :=
    invokeAlone_returns (newIds session.calls le_rfl)
  refine ⟨result, db', ran, ?_⟩
  intro call isLater
  exact leaves _ (apart session.calls call isLater)
    (newIds call (Nat.le_of_succ_le isLater))

/--
A proxy that is alone with its database and draws new ids answers every line
of well-typed requests: no denial, no failure of the provider and no state of
the mandate stops the loop.
-/
theorem typed_lines_are_answered
    {world : ProxyWorld}
    {mandateId : Id}
    {lines : List String}
    {session : ProxySession}
    (newIds : NewIds world session)
    (apart :
      ∀ earlier later, earlier < later →
        (world.draws earlier).Apart (world.draws later))
    (typed : ∀ line ∈ lines, strip line ≠ "" → Typed world mandateId line) :
    AnswersEveryLine (world.proxy mandateId) lines session :=
  (comesBack_of_newIds mandateId apart).answersEveryLine newIds typed

end Crossing

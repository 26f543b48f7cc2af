import Crossing.InvokeEffects
import Crossing.ReserveOutcomes

namespace Crossing

open Relational
open Relational.Transaction

/-!
# The outcomes of the first transaction of `invoke`

The checks before the first write depend on what the call sees and not on the
database it commits to.  `gate` collects their outcome.  A request that passes
the gate books its nonce and its task and goes on to `reserve_and_commit`.
-/

/-- What the checks of `invoke` before its first write lead to. -/
inductive Gate where
  | denied
      (principalId : Option Id)
      (mandateId : Id)
      (outcome : Denied)
      (remaining : Option Cents)
  | waits (mandate : Mandate) (outcome : Denied)
  | cached (result : InvokeResult)
  | passes (mandate : Mandate) (price : Cents)

/-- The checks of `invoke` before its first write. -/
def gate
    (env : Env)
    (views : Views)
    (request : InvokeRequest)
    (draw : InvokeDraw) :
    Gate :=
  match loadLiveMandate env views draw.now request.mandateId with
  | .error outcome =>
      let known := (views 0).mandates.find request.mandateId
      .denied (known.map Mandate.principalId) request.mandateId outcome
        (known.map Mandate.remainingCents)
  | .ok mandate =>
      let denied (outcome : Denied) : Gate :=
        .denied (some mandate.principalId) mandate.id outcome
          (some mandate.remainingCents)
      match
        loadIdem (views 4) mandate.principalId request.idempotencyKey
          (requestFingerprint env request)
      with
      | .error outcome =>
          if outcome.reason = .inProgress then
            .waits mandate outcome
          else
            denied outcome
      | .ok (some cached) => .cached cached
      | .ok none =>
          if nonceClash (views 5) mandate.principalId request.nonce then
            denied ⟨.nonceReplay, request.nonce.getD ""⟩
          else
            match checkedPrice env (views 6) mandate request draw.quoted with
            | .error outcome => denied outcome
            | .ok price => .passes mandate price

/-- The answer to a request whose operation is in progress. -/
def waitingAnswer
    (request : InvokeRequest)
    (mandate : Mandate)
    (outcome : Denied) :
    InvokeResult where
  ok := false
  reason := some outcome.reason
  detail := outcome.detail
  remainingCents := some mandate.remainingCents
  idempotencyKey := request.idempotencyKey

/-- The rest of the first transaction, for a request that passes the gate. -/
def bookAndReserve
    (env : Env)
    (views : Views)
    (request : InvokeRequest)
    (draw : InvokeDraw)
    (mandate : Mandate)
    (price : Cents) :
    Body Begun := do
  bookNonce mandate.principalId request.nonce
  let taskId ← bookTask mandate request.taskId draw.newTaskId
  reserveOrAnswer (views 7) mandate price request
    (requestFingerprint env request) (some taskId) draw

section Gate

variable
  {env : Env}
  {views : Views}
  {request : InvokeRequest}
  {draw : InvokeDraw}
  {mandate : Mandate}
  {price : Cents}

/-- The first transaction of `invoke`, after its gate. -/
theorem invokeBegin_eq :
    invokeBegin env views request draw =
      match gate env views request draw with
      | .denied principalId mandateId outcome remaining =>
          .answered <$>
            deny principalId mandateId outcome remaining
              request.idempotencyKey
      | .waits mandate outcome =>
          pure (.answered (waitingAnswer request mandate outcome))
      | .cached result => pure (.answered result)
      | .passes mandate price =>
          bookAndReserve env views request draw mandate price := by
  unfold invokeBegin gate
  cases loadLiveMandate env views draw.now request.mandateId with
  | error outcome => rfl
  | ok mandate =>
      simp only
      cases loadIdem (views 4) mandate.principalId request.idempotencyKey
          (requestFingerprint env request) with
      | error outcome =>
          by_cases waiting : outcome.reason = .inProgress
          · simp only [waiting, ↓reduceIte]
            simp only [waitingAnswer, waiting]
          · simp only [waiting, ↓reduceIte]
      | ok answer =>
          cases answer with
          | some cached => rfl
          | none =>
              by_cases clash :
                  nonceClash (views 5) mandate.principalId request.nonce = true
              · simp only [clash, ↓reduceIte]
              · simp only [clash, Bool.false_eq_true, ↓reduceIte]
                cases checkedPrice env (views 6) mandate request
                    draw.quoted <;>
                  rfl

/-- A request that passes the gate has passed each of its checks. -/
structure Passed
    (env : Env)
    (views : Views)
    (request : InvokeRequest)
    (draw : InvokeDraw)
    (mandate : Mandate)
    (price : Cents) :
    Prop where
  live : loadLiveMandate env views draw.now request.mandateId = .ok mandate
  notCached :
    loadIdem (views 4) mandate.principalId request.idempotencyKey
        (requestFingerprint env request) =
      .ok none
  nonceFree : nonceClash (views 5) mandate.principalId request.nonce = false
  priced : checkedPrice env (views 6) mandate request draw.quoted = .ok price

/-- The gate lets pass what passes each of its checks. -/
theorem gate_passes_iff :
    gate env views request draw = .passes mandate price ↔
      Passed env views request draw mandate price := by
  constructor
  · intro passes
    unfold gate at passes
    cases live : loadLiveMandate env views draw.now request.mandateId with
    | error outcome =>
        simp only [live] at passes
        cases passes
    | ok loaded =>
        simp only [live] at passes
        cases cached :
            loadIdem (views 4) loaded.principalId request.idempotencyKey
              (requestFingerprint env request) with
        | error outcome =>
            simp only [cached] at passes
            split at passes <;> cases passes
        | ok answer =>
            cases answer with
            | some result =>
                simp only [cached] at passes
                cases passes
            | none =>
                simp only [cached] at passes
                split at passes
                · cases passes
                · next clash =>
                  cases priced :
                      checkedPrice env (views 6) loaded request
                        draw.quoted with
                  | error outcome =>
                      simp only [priced] at passes
                      cases passes
                  | ok given =>
                      simp only [priced] at passes
                      cases passes
                      exact ⟨live, cached, by simpa using clash, priced⟩
  · intro passed
    simp only [gate, passed.live, passed.notCached, passed.nonceFree,
      passed.priced, Bool.false_eq_true, ↓reduceIte]

/-- The mandate that a call has loaded is an earlier version of a stored one. -/
theorem Passed.stored
    {db : Db}
    (passed : Passed env views request draw mandate price)
    (seen : Seen views db) :
    ∃ row, db.mandates.find mandate.id = some row ∧ mandate.SameTerms row := by
  obtain ⟨found, _, _⟩ := loadLiveMandate_ok passed.live
  have loadedId : mandate.id = request.mandateId := Table.key_of_find found
  obtain ⟨row, rowFound, same⟩ := (seen 0).mandates _ _ found
  exact ⟨row, loadedId ▸ rowFound, same⟩

end Gate

/-! ## What is booked before the reservation -/

/-- The nonces with the nonce of a request, when it has a non-empty one. -/
structure NonceAdded
    (db : Db)
    (principalId : Id)
    (nonce : Option String)
    (nonces : Table UsedNonce) :
    Prop where
  given :
    ∀ text, truthy nonce = some text →
      db.usedNonces.insert? ⟨principalId, text⟩ = some nonces
  none : truthy nonce = none → nonces = db.usedNonces

/-- The tasks with the task that a request without one gets. -/
structure TaskAdded
    (db : Db)
    (mandate : Mandate)
    (taskId : Option Id)
    (newTaskId chosen : Id)
    (tasks : Table Task) :
    Prop where
  given : ∀ id, taskId = some id → chosen = id ∧ tasks = db.tasks
  none :
    taskId = none →
      chosen = newTaskId ∧
        db.tasks.insert?
            { id := newTaskId
              principalId := mandate.principalId
              agentId := some mandate.agentId } =
          some tasks

/-- What a request has booked when it reaches `reserve_and_commit`. -/
structure Booked
    (request : InvokeRequest)
    (draw : InvokeDraw)
    (mandate : Mandate)
    (db : Db)
    (taskId : Id)
    (booked : Db) :
    Prop where
  shape :
    ∃ nonces tasks,
      NonceAdded db mandate.principalId request.nonce nonces ∧
        TaskAdded db mandate request.taskId draw.newTaskId taskId tasks ∧
        booked = { db with usedNonces := nonces, tasks := tasks }

section Booking

variable
  {env : Env}
  {views : Views}
  {request : InvokeRequest}
  {draw : InvokeDraw}
  {mandate : Mandate}
  {price : Cents}
  {db db' : Db}

/-- The nonce is booked exactly when its row can be added. -/
theorem bookNonce_iff
    {principalId : Id}
    {nonce : Option String} :
    exec (bookNonce principalId nonce) db = (.ok (), db') ↔
      ∃ nonces,
        NonceAdded db principalId nonce nonces ∧
          db' = { db with usedNonces := nonces } := by
  constructor
  · intro booked
    unfold bookNonce at booked
    cases isGiven : truthy nonce with
    | none =>
        rw [isGiven] at booked
        cases booked
        exact ⟨db.usedNonces, ⟨by simp [isGiven], fun _ => rfl⟩, rfl⟩
    | some text =>
        rw [isGiven] at booked
        obtain ⟨nonces, inserted, rfl⟩ := addRow_ok booked
        refine ⟨nonces, ⟨?_, by simp [isGiven]⟩, rfl⟩
        intro other same
        cases isGiven.symm.trans same
        exact inserted
  · rintro ⟨nonces, added, rfl⟩
    unfold bookNonce
    cases isGiven : truthy nonce with
    | none =>
        rw [added.none isGiven]
        rfl
    | some text => simp [addRow, added.given text isGiven]

/-- The task is booked exactly when its row can be added. -/
theorem bookTask_iff
    {taskId : Option Id}
    {newTaskId chosen : Id} :
    exec (bookTask mandate taskId newTaskId) db = (.ok chosen, db') ↔
      ∃ tasks,
        TaskAdded db mandate taskId newTaskId chosen tasks ∧
          db' = { db with tasks := tasks } := by
  cases taskId with
  | some given =>
      constructor
      · intro booked
        cases booked
        refine ⟨db.tasks, ⟨?_, by simp⟩, rfl⟩
        intro id same
        cases same
        exact ⟨rfl, rfl⟩
      · rintro ⟨tasks, added, rfl⟩
        obtain ⟨rfl, rfl⟩ := added.given given rfl
        rfl
  | none =>
      constructor
      · intro booked
        obtain ⟨task, createRun, rfl⟩ := map_ok booked
        obtain ⟨_, _, addRun, answer⟩ := bind_ok createRun
        obtain ⟨tasks, inserted, rfl⟩ := addRow_ok addRun
        cases answer
        exact ⟨tasks, ⟨by simp, fun _ => ⟨rfl, inserted⟩⟩, rfl⟩
      · rintro ⟨tasks, added, rfl⟩
        obtain ⟨rfl, inserted⟩ := added.none rfl
        simp [bookTask, createTask, addRow, inserted]

/-- Booking touches nonces and tasks only. -/
theorem Booked.others
    {taskId : Id}
    {booked : Db}
    (books : Booked request draw mandate db taskId booked) :
    booked.mandates = db.mandates ∧
      booked.ledgerEvents = db.ledgerEvents ∧
      booked.reservations = db.reservations ∧
      booked.idempotencyRecords = db.idempotencyRecords ∧
      booked.invocations = db.invocations := by
  obtain ⟨nonces, tasks, _, _, rfl⟩ := books.shape
  exact ⟨rfl, rfl, rfl, rfl, rfl⟩

/-- Booking leaves the claims as they are. -/
theorem Booked.claimOf
    {taskId : Id}
    {booked : Db}
    (books : Booked request draw mandate db taskId booked)
    (principalId : Id)
    (key : Option String) :
    claimOf booked principalId key = claimOf db principalId key := by
  unfold Crossing.claimOf
  rw [books.others.2.2.2.1]

/-- A request that passes the gate books, and then reserves or is answered. -/
theorem bookAndReserve_iff
    {begun : Begun} :
    exec (bookAndReserve env views request draw mandate price) db =
        (.ok begun, db') ↔
      ∃ taskId booked,
        Booked request draw mandate db taskId booked ∧
          exec
              (reserveOrAnswer (views 7) mandate price request
                (requestFingerprint env request) (some taskId) draw)
              booked =
            (.ok begun, db') := by
  constructor
  · intro returned
    obtain ⟨_, _, nonceRun, rest⟩ := bind_ok returned
    obtain ⟨nonces, nonceAdded, rfl⟩ := bookNonce_iff.mp nonceRun
    obtain ⟨taskId, _, taskRun, reserveRun⟩ := bind_ok rest
    obtain ⟨tasks, taskAdded, rfl⟩ := bookTask_iff.mp taskRun
    exact ⟨taskId, _,
      ⟨nonces, tasks, nonceAdded, ⟨taskAdded.given, taskAdded.none⟩, rfl⟩,
      reserveRun⟩
  · rintro ⟨taskId, booked, ⟨nonces, tasks, nonceAdded, taskAdded, rfl⟩,
      reserveRun⟩
    have nonceRun :
        exec (bookNonce mandate.principalId request.nonce) db =
          (.ok (), { db with usedNonces := nonces }) :=
      bookNonce_iff.mpr ⟨nonces, nonceAdded, rfl⟩
    have taskRun :
        exec (bookTask mandate request.taskId draw.newTaskId)
            { db with usedNonces := nonces } =
          (.ok taskId, { db with usedNonces := nonces, tasks := tasks }) :=
      bookTask_iff.mpr
        ⟨tasks, ⟨taskAdded.given, taskAdded.none⟩, rfl⟩
    simp only [bookAndReserve, exec_bind, nonceRun, taskRun, reserveRun]

/-- A request that is answered with a reservation has passed the gate. -/
theorem passes_of_reserved
    {attempt : Attempt}
    (returned :
      exec (invokeBegin env views request draw) db =
        (.ok (.reserved attempt), db')) :
    ∃ mandate price,
      gate env views request draw = .passes mandate price ∧
        exec (bookAndReserve env views request draw mandate price) db =
          (.ok (.reserved attempt), db') := by
  rw [invokeBegin_eq] at returned
  cases gated : gate env views request draw with
  | denied =>
      rw [gated] at returned
      obtain ⟨_, _, isAnswer⟩ := map_ok returned
      cases isAnswer
  | waits =>
      rw [gated] at returned
      cases returned
  | cached =>
      rw [gated] at returned
      cases returned
  | passes mandate price =>
      rw [gated] at returned
      exact ⟨mandate, price, rfl, returned⟩

end Booking

/-! ## Reserving, or answering -/

section Reserving

variable
  {view db db' : Db}
  {mandate : Mandate}
  {price : Cents}
  {request : InvokeRequest}
  {requestHash : String}
  {taskId : Option Id}
  {draw : InvokeDraw}

/-- The answer to a denial of `reserve_and_commit`. -/
def reserveDenial
    (db : Db)
    (mandate : Mandate)
    (price : Cents)
    (request : InvokeRequest)
    (taskId : Option Id)
    (outcome : Denied) :
    InvokeResult where
  ok := false
  reason := some outcome.reason
  detail := outcome.detail
  amountCents := price
  remainingCents := (db.mandates.find mandate.id).map Mandate.remainingCents
  idempotencyKey := request.idempotencyKey
  taskId := taskId

/-- What `invoke` makes of an exception of `reserve_and_commit`. -/
def onReserveRaised
    (db : Db)
    (mandate : Mandate)
    (price : Cents)
    (request : InvokeRequest)
    (taskId : Option Id) :
    Raised → Except Raised Begun
  | .idempotencyReplay record =>
      .ok (.answered (replayOf (record.resultJson.getD { ok := false })))
  | .policyDenied outcome =>
      .ok (.answered (reserveDenial db mandate price request taskId outcome))
  | other => .error other

/-- An exception of `reserve_and_commit` is answered, or goes on. -/
theorem reserveOrAnswer_raised
    {exception : Raised}
    (raised :
      exec
          (reserveAndCommit view draw.debitNow mandate price
            request.idempotencyKey request.nonce request.tool request.server
            (some requestHash) taskId draw.newReservationId
            draw.newInvocationId)
          db =
        (.error exception, db')) :
    exec
        (reserveOrAnswer view mandate price request requestHash taskId draw)
        db =
      (onReserveRaised db' mandate price request taskId exception, db') := by
  unfold reserveOrAnswer
  rw [exec_tryCatch, exec_bind, raised]
  cases exception <;> rfl

/-- What `invoke` holds once `reserve_and_commit` has returned. -/
theorem reserveOrAnswer_opened
    {reservation : Reservation}
    {invocation : Invocation}
    {debitedMandate : Mandate}
    (opened :
      exec
          (reserveAndCommit view draw.debitNow mandate price
            request.idempotencyKey request.nonce request.tool request.server
            (some requestHash) taskId draw.newReservationId
            draw.newInvocationId)
          db =
        (.ok (reservation, invocation, debitedMandate), db')) :
    exec
        (reserveOrAnswer view mandate price request requestHash taskId draw)
        db =
      (.ok
          (.reserved
            { request := request
              requestHash := requestHash
              mandate := debitedMandate
              price := price
              taskId := taskId
              reservation := reservation
              invocation := invocation }),
        db') := by
  unfold reserveOrAnswer
  rw [exec_tryCatch, exec_bind, opened]
  rfl

/-- An answer comes from an exception, and an attempt from a return. -/
theorem reserveOrAnswer_cases
    {begun : Begun}
    (returned :
      exec
          (reserveOrAnswer view mandate price request requestHash taskId draw)
          db =
        (.ok begun, db')) :
    (∃ exception,
      exec
          (reserveAndCommit view draw.debitNow mandate price
            request.idempotencyKey request.nonce request.tool request.server
            (some requestHash) taskId draw.newReservationId
            draw.newInvocationId)
          db =
        (.error exception, db')) ∨
      ∃ reservation invocation debitedMandate,
        exec
            (reserveAndCommit view draw.debitNow mandate price
              request.idempotencyKey request.nonce request.tool request.server
              (some requestHash) taskId draw.newReservationId
              draw.newInvocationId)
            db =
          (.ok (reservation, invocation, debitedMandate), db') := by
  cases ran :
      exec
        (reserveAndCommit view draw.debitNow mandate price
          request.idempotencyKey request.nonce request.tool request.server
          (some requestHash) taskId draw.newReservationId
          draw.newInvocationId)
        db with
  | mk outcome between =>
      cases outcome with
      | ok opened =>
          obtain ⟨reservation, invocation, debitedMandate⟩ := opened
          rw [reserveOrAnswer_opened ran] at returned
          cases returned
          exact .inr ⟨reservation, invocation, debitedMandate, rfl⟩
      | error exception =>
          rw [reserveOrAnswer_raised ran] at returned
          cases exception <;> cases returned <;> exact .inl ⟨_, rfl⟩

end Reserving

/-! ## The step of a request -/

/-- What a step of `invoke` has run, and what it leaves in the log. -/
theorem step_invoke
    {env : Env}
    {s s' : Sys}
    {ages : List Nat}
    {request : InvokeRequest}
    {draw : InvokeDraw}
    (taken : step env s (.invoke ages request draw) = some s') :
    (∃ result,
      exec (invokeBegin env (s.views ages) request draw) s.db =
          (.ok (.answered result), s'.db) ∧
        s'.log = s.log ++ [.answered request result]) ∨
      ∃ attempt,
        exec (invokeBegin env (s.views ages) request draw) s.db =
            (.ok (.reserved attempt), s'.db) ∧
          s'.log = s.log ++ [.reserved attempt.invocation.id] := by
  simp only [step] at taken
  split at taken
  · cases committed :
        Transaction.commit (invokeBegin env (s.views ages) request draw)
          s.db with
    | none =>
        simp only [committed] at taken
        cases taken
    | some outcome =>
        obtain ⟨begun, db'⟩ := outcome
        have ran := commit_eq_some.mp committed
        cases begun with
        | answered result =>
            simp only [committed] at taken
            cases taken
            exact .inl ⟨result, ran, rfl⟩
        | reserved attempt =>
            simp only [committed] at taken
            obtain ⟨calls, _, rfl⟩ := Option.map_eq_some_iff.mp taken
            exact .inr ⟨attempt, ran, rfl⟩
  · cases taken

end Crossing

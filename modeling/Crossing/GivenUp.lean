import Crossing.DenialLog
import Crossing.NonceUse
import Crossing.Replay

namespace Crossing

open Relational
open Relational.Transaction

/-!
# What a request that was given up leaves

A denied debit rolls its claim back, and a release deletes the claim of its
attempt, so the key is free again.  The row of a nonce is written before the
savepoint and outlives both.
-/

/-! ## Attempts that were given up -/

section Attempts

variable {attempts attempts' : Attempts}

/-- An attempt that was given up stays as it is. -/
theorem AttemptStep.dead_stays
    {id : Id}
    {row : Invocation}
    (step : AttemptStep attempts attempts')
    (found : attempts.invocations.find id = some row)
    (dead : row.status.isLive = false) :
    attempts'.invocations.find id = some row := by
  -- A step that changes a status starts from a live attempt.
  have elsewhere
      {invocation : Invocation}
      {toStatus : InvocationStatus}
      (stored : attempts.invocations.find invocation.id = some invocation)
      (live : invocation.status.isLive = true) :
      (attempts.invocations.put
          { invocation with status := toStatus }).find id =
        some row := by
    have different : invocation.id ≠ id := by
      rintro rfl
      cases stored.symm.trans found
      rw [live] at dead
      cases dead
    exact (Table.find_put_of_ne different).trans found
  cases step with
  | still => exact found
  | opened _ inserted => exact Table.find_insert_of_some inserted found
  | moved stored move => exact elsewhere stored move.inProgress.1
  | completed stored way => exact elsewhere stored way.completed.1
  | freed stored way => exact elsewhere stored way.freed.1

/-- The claim of an operation is free when no attempt at it is live. -/
theorem Attempts.Law.free_of_dead
    {at_ : Id × String}
    (law : attempts.Law)
    (dead :
      ∀ row ∈ attempts.invocations.rows, row.operation = some at_ →
        row.status.isLive = false) :
    attempts.claims.find at_ = none := by
  cases found : attempts.claims.find at_ with
  | none => rfl
  | some claim =>
      obtain ⟨row, member, operation, live, _⟩ := law.owned at_ claim found
      rw [dead row member operation] at live
      cases live

/-- No attempt at an operation with a free claim is live. -/
theorem Attempts.Law.dead_of_free
    {at_ : Id × String}
    {row : Invocation}
    (law : attempts.Law)
    (free : attempts.claims.find at_ = none)
    (member : row ∈ attempts.invocations.rows)
    (operation : row.operation = some at_) :
    row.status.isLive = false := by
  cases live : row.status.isLive with
  | false => rfl
  | true =>
      obtain ⟨claim, found⟩ := law.claimed row member live at_ operation
      rw [free] at found
      cases found

/-- The step that releases an attempt frees its operation. -/
theorem AttemptStep.released
    {id : Id}
    {before after : Invocation}
    {at_ : Id × String}
    (step : AttemptStep attempts attempts')
    (wasFound : attempts.invocations.find id = some before)
    (wasReserved : before.status = .reserved)
    (isFound : attempts'.invocations.find id = some after)
    (isReleased : after.status = .released)
    (operation : before.operation = some at_) :
    attempts'.claims.find at_ = none := by
  -- Where the row is as it was, it is not released.
  have notSame (same : attempts'.invocations.find id = some before) :
      False := by
    cases isFound.symm.trans same
    rw [wasReserved] at isReleased
    cases isReleased
  -- The row that has changed is the one that was put.
  have isPut
      {invocation : Invocation}
      {toStatus : InvocationStatus}
      (shape :
        attempts'.invocations =
          attempts.invocations.put { invocation with status := toStatus })
      (stored : attempts.invocations.find invocation.id = some invocation) :
      invocation = before ∧ toStatus = .released := by
    rw [shape] at isFound notSame
    have same : invocation.id = id := by
      by_contra different
      exact notSame ((Table.find_put_of_ne different).trans wasFound)
    subst same
    have isBefore : invocation = before :=
      Option.some.inj (stored.symm.trans wasFound)
    have put :
        (attempts.invocations.put
            { invocation with status := toStatus }).find invocation.id =
          some { invocation with status := toStatus } :=
      Table.find_put_self stored
    cases put.symm.trans isFound
    exact ⟨isBefore, isReleased⟩
  cases step with
  | still => exact (notSame wasFound).elim
  | opened _ inserted =>
      exact (notSame (Table.find_insert_of_some inserted wasFound)).elim
  | moved stored move =>
      obtain ⟨rfl, rfl⟩ := isPut rfl stored
      exact (move.notEnd.2.1 rfl).elim
  | completed stored way =>
      obtain ⟨rfl, rfl⟩ := isPut rfl stored
      cases way.completed.2.1
  | freed stored way cleared =>
      obtain ⟨rfl, rfl⟩ := isPut rfl stored
      exact cleared.find_self operation

end Attempts

/-! ## What a run keeps -/

section Runs

variable
  {env : Env}
  {allowed : Sys → Action → Prop}
  {discipline : Discipline}
  {s s' : Sys}

/-- An attempt that was given up stays so. -/
theorem later_dead
    {id : Id}
    {row : Invocation}
    (rule : discipline.defaultRelease)
    (keeps : ∀ s action, allowed s action → discipline.Allows action)
    (reachable : Reachable env allowed s)
    (later : Later env allowed s s')
    (found : s.db.invocations.find id = some row)
    (dead : row.status.isLive = false) :
    s'.db.invocations.find id = some row := by
  refine Transition.later_invariant
    (fun s => s.db.invocations.find id = some row) ?_ reachable found later
  intro s s' isReachable isFound taken
  exact (step_attempts rule keeps isReachable taken).dead_stays isFound dead

/-- A free operation stays free while no other attempt is made at it. -/
theorem later_free
    {at_ : Id × String}
    (rule : discipline.defaultRelease)
    (keeps : ∀ s action, allowed s action → discipline.Allows action)
    (reachable : Reachable env allowed s)
    (later : Later env allowed s s')
    (free : s.db.idempotencyRecords.find at_ = none)
    (alone :
      ∀ row ∈ s'.db.invocations.rows, row.operation = some at_ →
        (s.db.invocations.find row.id).isSome = true) :
    s'.db.idempotencyRecords.find at_ = none := by
  have law := reachable_attempts discipline rule keeps reachable
  have law' := reachable_attempts discipline rule keeps (reachable.later later)
  apply law'.free_of_dead
  intro row member operation
  obtain ⟨old, found⟩ :=
    Option.isSome_iff_exists.mp (alone row member operation)
  have isRow : s'.db.invocations.find row.id = some row :=
    Table.find_of_mem member
  obtain ⟨new, isNew, same⟩ :=
    (later_evolves reachable later).invocations _ _ found
  cases isRow.symm.trans isNew
  have wasDead : old.status.isLive = false :=
    law.dead_of_free free (Table.mem_of_find found)
      (same.operation.symm.trans operation)
  cases (later_dead rule keeps reachable later found wasDead).symm.trans isRow
  exact wasDead

/-- A booked nonce stays booked. -/
theorem later_booked
    {principalId : Id}
    {nonce : String}
    (reachable : Reachable env allowed s)
    (later : Later env allowed s s')
    (isBooked : s.db.nonceBook.IsBooked principalId nonce) :
    s'.db.nonceBook.IsBooked principalId nonce := by
  refine Transition.later_invariant
    (fun s => s.db.nonceBook.IsBooked principalId nonce) ?_ reachable isBooked
    later
  rintro s s' isReachable isBooked ⟨_, _, taken⟩
  exact step_booked (reachable_kept isReachable) taken isBooked

end Runs

/-! ## What the first request leaves -/

/-- The claim of a request is free, and its nonce is booked. -/
structure GivenUp
    (request : InvokeRequest)
    (principalId : Id)
    (s : Sys) :
    Prop where
  ofPrincipal :
    ∃ row,
      s.db.mandates.find request.mandateId = some row ∧
        row.principalId = principalId
  free : claimOf s.db principalId request.idempotencyKey = none
  booked :
    ∀ nonce, truthy request.nonce = some nonce →
      s.db.nonceBook.IsBooked principalId nonce

section First

variable
  {env : Env}
  {views : Views}
  {request : InvokeRequest}
  {draw : InvokeDraw}
  {mandate : Mandate}
  {price : Cents}
  {db db' : Db}
  {begun : Begun}

/-- The nonce is booked, whatever `reserve_and_commit` comes to. -/
theorem bookAndReserve_booked
    {nonce : String}
    (returned :
      exec (bookAndReserve env views request draw mandate price) db =
        (.ok begun, db'))
    (given : truthy request.nonce = some nonce) :
    db'.nonceBook.IsBooked mandate.principalId nonce := by
  obtain ⟨taskId, booked, books, reserveRun⟩ := bookAndReserve_iff.mp returned
  obtain ⟨nonces, tasks, nonceAdded, _, rfl⟩ := books.shape
  have kept : db'.usedNonces = nonces := by
    rcases reserveOrAnswer_cases reserveRun with
      ⟨exception, raised⟩ | ⟨reservation, invocation, debitedRow, opened⟩
    · obtain ⟨denials, _, rfl⟩ := reserveAndCommit_raised raised
      rfl
    · obtain ⟨_, _, _, _, _, _, _, _, _, _, rfl⟩ :=
        (reserveAndCommit_returned opened).added
      rfl
  change (db'.usedNonces.find (mandate.principalId, nonce)).isSome = true
  rw [kept, NonceBook.found_of_insert (nonceAdded.given nonce given)]
  rfl

/-- The claim of a request that is answered like a fresh one is free. -/
theorem bookAndReserve_denied
    {row : Mandate}
    {result : InvokeResult}
    (stored : db.mandates.find mandate.id = some row)
    (returned :
      exec (bookAndReserve env views request draw mandate price) db =
        (.ok (.answered result), db'))
    (notReplayed : result.replayed = false)
    (isReason : result.reason = some .budgetExceeded) :
    claimOf db' mandate.principalId request.idempotencyKey = none ∧
      db'.mandates = db.mandates := by
  obtain ⟨taskId, booked, books, reserveRun⟩ := bookAndReserve_iff.mp returned
  have bookedRow : booked.mandates.find mandate.id = some row := by
    rw [books.others.1]
    exact stored
  rcases reserveOrAnswer_cases reserveRun with
    ⟨exception, raised⟩ | ⟨reservation, invocation, debitedRow, opened⟩
  · obtain ⟨denials, _, rfl⟩ := reserveAndCommit_raised raised
    refine ⟨?_, books.others.1⟩
    cases taken :
        claimOf booked mandate.principalId request.idempotencyKey with
    | none => exact taken
    | some record =>
        have same := (reserveAndCommit_taken bookedRow taken).symm.trans raised
        have isClaim := Except.error.inj (Prod.mk.inj same).1
        rw [reserveOrAnswer_raised raised, ← isClaim] at reserveRun
        rcases existingClaim_cases
            (claimOf (views 7) mandate.principalId request.idempotencyKey)
            (some (requestFingerprint env request)) with
          ⟨outcome, isDenied, unrecorded⟩ | ⟨replayed, isReplay⟩
        · rw [isDenied] at reserveRun
          cases reserveRun
          have isBudget : outcome.reason = .budgetExceeded :=
            Option.some.inj isReason
          rw [isBudget] at unrecorded
          exact (unrecorded List.mem_cons_self).elim
        · rw [isReplay] at reserveRun
          cases reserveRun
          cases notReplayed
  · rw [reserveOrAnswer_opened opened] at reserveRun
    cases reserveRun

end First

/-- Actions in which `finalize_release` releases reserved attempts only. -/
def ReleasesReserved (_ : Sys) (action : Action) : Prop :=
  Discipline.release.Allows action

/-- A request denied at its debit, or one whose attempt was released. -/
inductive Unserved (env : Env) (request : InvokeRequest) : Sys → Prop where
  | denied
      {s s' : Sys}
      {ages : List Nat}
      {draw : InvokeDraw}
      {mandate : Mandate}
      {price : Cents}
      {result : InvokeResult}
      (reachable : Reachable env ReleasesReserved s)
      (passes : gate env (s.views ages) request draw = .passes mandate price)
      (taken : step env s (.invoke ages request draw) = some s')
      (answered : s'.log = s.log ++ [.answered request result])
      (notReplayed : result.replayed = false)
      (isReason : result.reason = some .budgetExceeded) :
      Unserved env request s'
  | released
      {s s₁ s₂ s' : Sys}
      {ages ages' : List Nat}
      {draw : InvokeDraw}
      {invocation before after : Invocation}
      (reachable : Reachable env ReleasesReserved s)
      (taken : step env s (.invoke ages request draw) = some s₁)
      (reserved : s₁.log = s.log ++ [.reserved invocation.id])
      (later : Later env ReleasesReserved s₁ s₂)
      (releases :
        step env s₂ (.txn ages' (.recoverReserved invocation "release")) =
          some s')
      (wasFound : s₂.db.invocations.find invocation.id = some before)
      (wasReserved : before.status = .reserved)
      (isFound : s'.db.invocations.find invocation.id = some after)
      (isReleased : after.status = .released) :
      Unserved env request s'

/-- The state in which a request was given up is reachable. -/
theorem Unserved.reachable
    {env : Env}
    {request : InvokeRequest}
    {s : Sys}
    (unserved : Unserved env request s) :
    Reachable env ReleasesReserved s := by
  cases unserved with
  | denied reachable _ taken =>
      exact reachable.next ⟨.invoke _ request _, trivial, taken⟩
  | released reachable taken _ later releases =>
      have reserved := reachable.next ⟨.invoke _ request _, trivial, taken⟩
      refine (reserved.later later).next ⟨_, ?_, releases⟩
      exact Discipline.allows_routine _ rfl

section GivenUp

variable
  {env : Env}
  {request : InvokeRequest}
  {s s' : Sys}
  {ages : List Nat}
  {draw : InvokeDraw}

/-- A denial at the debit leaves the claim free and the nonce booked. -/
theorem givenUp_of_denied
    {mandate : Mandate}
    {price : Cents}
    {result : InvokeResult}
    (reachable : Reachable env ReleasesReserved s)
    (passes : gate env (s.views ages) request draw = .passes mandate price)
    (taken : step env s (.invoke ages request draw) = some s')
    (answered : s'.log = s.log ++ [.answered request result])
    (notReplayed : result.replayed = false)
    (isReason : result.reason = some .budgetExceeded) :
    GivenUp request mandate.principalId s' := by
  have passed := gate_passes_iff.mp passes
  obtain ⟨row, stored, same⟩ :=
    passed.stored ((reachable_kept reachable).seen ages)
  have loadedId : mandate.id = request.mandateId :=
    Table.key_of_find (loadLiveMandate_ok passed.live).1
  rcases step_invoke taken with ⟨other, returned, log⟩ | ⟨_, _, log⟩
  · rw [log] at answered
    cases List.append_cancel_left answered
    rw [invokeBegin_eq, passes] at returned
    obtain ⟨free, sameMandates⟩ :=
      bookAndReserve_denied stored returned notReplayed isReason
    refine ⟨⟨row, ?_, by rw [same.1]⟩, free, ?_⟩
    · rw [sameMandates, ← loadedId]
      exact stored
    · intro nonce given
      exact bookAndReserve_booked returned given
  · rw [log] at answered
    cases List.append_cancel_left answered

/-- The mandate that a call has loaded is one of the stored principal. -/
theorem loaded_later
    {mandate : Mandate}
    (reachable : Reachable env ReleasesReserved s)
    (later : Later env ReleasesReserved s s')
    (live :
      loadLiveMandate env (s.views ages) draw.now request.mandateId =
        .ok mandate) :
    ∃ row,
      s'.db.mandates.find request.mandateId = some row ∧
        row.principalId = mandate.principalId := by
  obtain ⟨found, _, _⟩ := loadLiveMandate_ok live
  have seen := (reachable_kept reachable).seen ages 0
  obtain ⟨row, isRow, same⟩ :=
    (seen.trans (later_evolves reachable later)).mandates _ _ found
  exact ⟨row, isRow, by rw [same.1]⟩

/-- What is known of the attempt that a request has reserved. -/
theorem reserved_knows
    {id : Id}
    (reachable : Reachable env ReleasesReserved s)
    (taken : step env s (.invoke ages request draw) = some s')
    (reserved : s'.log = s.log ++ [.reserved id]) :
    ∃ row invocation,
      s'.db.mandates.find request.mandateId = some row ∧
        invocation.id = id ∧
        HeldAttempt s'.db invocation ∧
        invocation.principalId = row.principalId ∧
        invocation.idempotencyKey = request.idempotencyKey ∧
        ∀ nonce, truthy request.nonce = some nonce →
          s'.db.nonceBook.IsBooked row.principalId nonce := by
  have kept := reachable_kept reachable
  rcases step_invoke taken with ⟨_, _, log⟩ | ⟨attempt, returned, log⟩
  · rw [log] at reserved
    cases List.append_cancel_left reserved
  · rw [log] at reserved
    cases List.append_cancel_left reserved
    rcases @invokeBegin_ok env .free .call _ _ _ _ _ _ (kept.seen ages)
        returned with
      ⟨_, isAnswer, _⟩ | ⟨_, loaded, isAttempt, begins⟩
    · cases isAnswer
    · cases isAttempt
      have stored := begins.stored
      have isRequest := begins.begins.isRequest
      obtain ⟨row, found, samePrincipal⟩ := stored.loaded
      rw [stored.ofMandate, stored.requested.mandate, isRequest] at found
      refine ⟨row, attempt.invocation, found, rfl, stored.held, ?_,
        isRequest ▸ stored.requested.key, ?_⟩
      · rw [samePrincipal, stored.ofPrincipal]
      · intro nonce given
        obtain ⟨mandate, price, passes, ran⟩ := passes_of_reserved returned
        obtain ⟨row', found', ofMandate⟩ :=
          loaded_later reachable
            (.single ⟨.invoke ages request draw, trivial, taken⟩)
            (gate_passes_iff.mp passes).live
        cases found.symm.trans found'
        rw [ofMandate]
        exact bookAndReserve_booked ran given

/-- A release leaves the claim free and the nonce booked. -/
theorem givenUp_of_released
    {s₁ s₂ : Sys}
    {ages' : List Nat}
    {invocation before after : Invocation}
    (reachable : Reachable env ReleasesReserved s)
    (taken : step env s (.invoke ages request draw) = some s₁)
    (reserved : s₁.log = s.log ++ [.reserved invocation.id])
    (later : Later env ReleasesReserved s₁ s₂)
    (releases :
      step env s₂ (.txn ages' (.recoverReserved invocation "release")) =
        some s')
    (wasFound : s₂.db.invocations.find invocation.id = some before)
    (wasReserved : before.status = .reserved)
    (isFound : s'.db.invocations.find invocation.id = some after)
    (isReleased : after.status = .released) :
    ∃ principalId, GivenUp request principalId s' := by
  obtain ⟨row, attempt, rowFound, sameId, held, ofPrincipal, sameKey,
    booked⟩ := reserved_knows reachable taken reserved
  have reachable₁ : Reachable env ReleasesReserved s₁ :=
    reachable.next ⟨.invoke ages request draw, trivial, taken⟩
  have reachable₂ := reachable₁.later later
  have allowed :
      ReleasesReserved s₂
        (.txn ages' (.recoverReserved invocation "release")) :=
    Discipline.allows_routine _ rfl
  have whole : Later env ReleasesReserved s₁ s' :=
    later.tail ⟨_, allowed, releases⟩
  obtain ⟨row', rowFound', same⟩ :=
    (later_evolves reachable₁ whole).mandates _ _ rowFound
  refine ⟨row.principalId, ⟨row', rowFound', by rw [same.1]⟩, ?_, ?_⟩
  · cases given : truthy request.idempotencyKey with
    | none => simp [claimOf, given]
    | some key =>
        simp only [claimOf, given, Option.bind_some]
        -- The attempt that is released is the one that the request reserved.
        obtain ⟨old, oldFound, sameOld⟩ := held
        obtain ⟨new, newFound, sameNew⟩ :=
          (later_evolves reachable₁ later).invocations _ _ oldFound
        rw [sameId] at newFound
        cases newFound.symm.trans wasFound
        have operation :
            before.operation = some (row.principalId, key) := by
          rw [(sameOld.trans sameNew).operation, Invocation.operation, sameKey,
            given, ofPrincipal]
          rfl
        have steps :=
          step_attempts trivial (fun _ _ isAllowed => isAllowed) reachable₂
            ⟨_, allowed, releases⟩
        exact
          steps.released wasFound wasReserved isFound isReleased operation
  · intro nonce given
    exact later_booked reachable₁ whole (booked nonce given)

/-- A request that was not served left its claim free, and its nonce booked. -/
theorem Unserved.givenUp (unserved : Unserved env request s) :
    ∃ principalId, GivenUp request principalId s := by
  cases unserved with
  | denied reachable passes taken answered notReplayed isReason =>
      exact ⟨_,
        givenUp_of_denied reachable passes taken answered notReplayed isReason⟩
  | released reachable taken reserved later releases wasFound wasReserved
      isFound isReleased =>
      exact
        givenUp_of_released reachable taken reserved later releases wasFound
          wasReserved isFound isReleased

end GivenUp

end Crossing

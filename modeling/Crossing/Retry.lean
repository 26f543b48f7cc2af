import Crossing.DenialReasons
import Crossing.GivenUp

namespace Crossing

open Relational
open Relational.Transaction

/-!
# Sending a request again

A request that was denied at its debit, or whose attempt was released, finds
its key free.  It is processed like a fresh one unless it carries a nonce: its
own nonce is booked, so it is a replay of itself.
-/

/-! ## The reasons of the other checks -/

/-- The reasons that tell a request from one that was sent before. -/
def repeatReasons : List Reason :=
  [.nonceReplay, .inProgress, .idempotencyConflict]

/-- The price list and the validation of arguments deny for their reasons. -/
structure OwnReasons (env : Env) (quoted : Except Denied Cents) : Prop where
  quote :
    DeniesOnly (· ∈ [Reason.unknownTool, .serverNotAllowed]) quoted
  validateArguments :
    ∀ tool payload,
      DeniesOnly (· ∈ [Reason.payloadTooLarge, .invalidArguments])
        (env.validateArguments tool payload)

section Checks

variable
  {env : Env}
  {views : Views}
  {mandate : Mandate}
  {request : InvokeRequest}
  {quoted : Except Denied Cents}

/-- A mandate that is not live is no repetition. -/
theorem loadLiveMandate_notRepeated {now : Datetime} {mandateId : Id} :
    DeniesOnly (· ∉ repeatReasons)
      (loadLiveMandate env views now mandateId) :=
  loadLiveMandate_reason.weaken (by decide)

/-- What denies a price is no repetition. -/
theorem checkedPrice_notRepeated
    {view : Db}
    (own : OwnReasons env quoted) :
    DeniesOnly (· ∉ repeatReasons)
      (checkedPrice env view mandate request quoted) := by
  refine .bind ?_ fun price => .bind ?_ fun _ => .bind ?_ fun _ => ?_
  · exact own.quote.weaken (by decide)
  · exact checkTool_reason.weaken (by decide)
  · exact (own.validateArguments _ _).weaken (by decide)
  · split
    · exact .bind (.denyWhen (by decide)) fun _ => .ok
    · exact .ok

end Checks

/-! ## The same request again -/

section Again

variable
  {env : Env}
  {views : Views}
  {request : InvokeRequest}
  {draw : InvokeDraw}
  {mandate : Mandate}
  {db db' : Db}

/-- A key without a claim is answered with nothing. -/
theorem loadIdem_free
    {view : Db}
    {principalId : Id}
    {key : Option String}
    {requestHash : String}
    (free : claimOf view principalId key = none) :
    loadIdem view principalId key requestHash = .ok none := by
  unfold loadIdem
  cases given : truthy key with
  | none => rfl
  | some text =>
      have unclaimed :
          view.idempotencyRecords.find (principalId, text) = none := by
        simpa [claimOf, given] using free
      simp only [unclaimed]

/-- Without a claim the gate checks the nonce and the price. -/
theorem gate_of_free
    (live : loadLiveMandate env views draw.now request.mandateId = .ok mandate)
    (free :
      claimOf (views 4) mandate.principalId request.idempotencyKey = none) :
    gate env views request draw =
      if nonceClash (views 5) mandate.principalId request.nonce then
        .denied (some mandate.principalId) mandate.id
          ⟨.nonceReplay, request.nonce.getD ""⟩ (some mandate.remainingCents)
      else
        match checkedPrice env (views 6) mandate request draw.quoted with
        | .error outcome =>
            .denied (some mandate.principalId) mandate.id outcome
              (some mandate.remainingCents)
        | .ok price => .passes mandate price := by
  cases priced : checkedPrice env (views 6) mandate request draw.quoted <;>
    simp only [gate, live, loadIdem_free free, priced]

/-- A request without a nonce meets none. -/
theorem nonceClash_of_none
    {view : Db}
    {principalId : Id}
    {nonce : Option String}
    (isNone : truthy nonce = none) :
    nonceClash view principalId nonce = false := by
  simp [nonceClash, isNone]

/-- An answer that does not tell the request from a new one. -/
structure FreshAnswer (result : InvokeResult) : Prop where
  notReplayed : result.replayed = false
  notRepeated :
    ∀ reason, result.reason = some reason → reason ∉ repeatReasons

/-- A denial of the gate is a fresh answer. -/
theorem FreshAnswer.of_denied
    {principalId : Option Id}
    {mandateId : Id}
    {outcome : Denied}
    {remaining : Option Cents}
    {key : Option String}
    {result : InvokeResult}
    (returned :
      exec
          (Begun.answered <$>
            deny principalId mandateId outcome remaining key)
          db =
        (.ok (.answered result), db'))
    (other : outcome.reason ∉ repeatReasons) :
    FreshAnswer result := by
  cases principalId <;>
    · cases returned
      refine ⟨rfl, ?_⟩
      intro reason isReason
      cases isReason
      exact other

/-- A free key, a price and a debit that matches lead to a reservation. -/
theorem reserveOrAnswer_debitable
    {row : Mandate}
    {price : Cents}
    {taskId : Option Id}
    {requestHash : String}
    {view : Db}
    {begun : Begun}
    (stored : db.mandates.find mandate.id = some row)
    (free : claimOf db mandate.principalId request.idempotencyKey = none)
    (nonnegative : 0 ≤ price)
    (passes : debitGuard draw.debitNow price row = true)
    (returned :
      exec
          (reserveOrAnswer view mandate price request requestHash taskId draw)
          db =
        (.ok begun, db')) :
    ∃ attempt,
      begun = .reserved attempt ∧
        attempt.invocation.id = draw.newInvocationId ∧
        (db'.reservations.find draw.newReservationId).isSome = true := by
  obtain ⟨claims, added⟩ := exists_claimAdded (some requestHash) free
  rcases reserveOrAnswer_cases returned with
    ⟨exception, raised⟩ | ⟨reservation, invocation, debitedRow, opened⟩
  · have isRaised := raised
    rw [reserveAndCommit_debitable stored added nonnegative passes] at isRaised
    split at isRaised
    · cases isRaised
    · cases isRaised
      rw [reserveOrAnswer_raised raised] at returned
      cases returned
  · have isOpened := opened
    rw [reserveAndCommit_debitable stored added nonnegative passes] at isOpened
    rw [reserveOrAnswer_opened opened] at returned
    split at isOpened
    · next reservations invocations inserted _ =>
        cases isOpened
        cases returned
        refine ⟨_, rfl, rfl, ?_⟩
        change (reservations.find draw.newReservationId).isSome = true
        rw [(Table.find_insert inserted draw.newReservationId).trans
          (if_pos rfl)]
        rfl
    · cases isOpened

/-- What is answered in place of a reservation is a fresh answer. -/
theorem FreshAnswer.of_raised
    {row : Mandate}
    {price : Cents}
    {taskId : Option Id}
    {requestHash : String}
    {view : Db}
    {result : InvokeResult}
    (stored : db.mandates.find mandate.id = some row)
    (free : claimOf db mandate.principalId request.idempotencyKey = none)
    (returned :
      exec
          (reserveOrAnswer view mandate price request requestHash taskId draw)
          db =
        (.ok (.answered result), db')) :
    FreshAnswer result := by
  -- The denials that are left are of the amount and of the debit.
  have denied
      {outcome : Denied}
      {db'' : Db}
      (other : outcome.reason ∉ repeatReasons)
      (raised :
        exec
            (reserveAndCommit view draw.debitNow mandate price
              request.idempotencyKey request.nonce request.tool
              request.server (some requestHash) taskId draw.newReservationId
              draw.newInvocationId)
            db =
          (.error (Crossing.denied outcome), db'')) :
      FreshAnswer result := by
    rw [reserveOrAnswer_raised raised] at returned
    cases returned
    refine ⟨rfl, ?_⟩
    intro reason isReason
    cases isReason
    exact other
  by_cases negative : price < 0
  · exact denied (by decide)
      (reserveAndCommit_negative stored free negative)
  have nonnegative : 0 ≤ price := not_lt.mp negative
  cases passes : debitGuard draw.debitNow price row with
  | false =>
      refine denied ?_
        (reserveAndCommit_refused stored free nonnegative passes)
      have recorded :
          (refusedDebit draw.debitNow mandate price).reason ∈
            recordedDenials :=
        reserveDenyReason_recorded draw.debitNow (some mandate) price
      revert recorded
      cases (refusedDebit draw.debitNow mandate price).reason <;> decide
  | true =>
      obtain ⟨_, isAnswer, _⟩ :=
        reserveOrAnswer_debitable stored free nonnegative passes returned
      cases isAnswer

end Again

/-- The mandate lets the request reserve, and the draw has a price for it. -/
structure MandateAllows
    (env : Env)
    (request : InvokeRequest)
    (t : Sys)
    (ages : List Nat)
    (draw : InvokeDraw) :
    Prop where
  allows :
    ∃ mandate price row,
      loadLiveMandate env (t.views ages) draw.now request.mandateId =
          .ok mandate ∧
        checkedPrice env (t.views ages 6) mandate request draw.quoted =
          .ok price ∧
        0 ≤ price ∧
        t.db.mandates.find request.mandateId = some row ∧
        debitGuard draw.debitNow price row = true

/--
A request is sent again.  It sees nothing older than the state in which it was
given up, and no other request has reserved under its key since.
-/
structure Resent
    (env : Env)
    (request : InvokeRequest)
    (s t t' : Sys)
    (ages : List Nat)
    (draw : InvokeDraw) :
    Prop where
  later : Later env ReleasesReserved s t
  since : Since s t ages
  alone :
    ∀ mandate ∈ t.db.mandates.find request.mandateId,
      ∀ key ∈ truthy request.idempotencyKey,
        ∀ row ∈ t.db.invocations.rows,
          row.operation = some (mandate.principalId, key) →
            (s.db.invocations.find row.id).isSome = true
  taken : step env t (.invoke ages request draw) = some t'

/-- A request is processed as if it had not been sent before. -/
structure ProcessedFresh
    (env : Env)
    (request : InvokeRequest)
    (t t' : Sys)
    (ages : List Nat)
    (draw : InvokeDraw) :
    Prop where
  answer :
    ∀ result, t'.log = t.log ++ [.answered request result] →
      FreshAnswer result
  reserves :
    MandateAllows env request t ages draw →
      t'.log = t.log ++ [.reserved draw.newInvocationId] ∧
        (t'.db.reservations.find draw.newReservationId).isSome = true

section Resent

variable
  {env : Env}
  {request : InvokeRequest}
  {s t t' : Sys}
  {ages : List Nat}
  {draw : InvokeDraw}
  {mandate : Mandate}
  {principalId : Id}

/-- The mandate that is loaded again is one of the same principal. -/
theorem GivenUp.samePrincipal
    (givenUp : GivenUp request principalId s)
    (reachable : Reachable env ReleasesReserved s)
    (resent : Resent env request s t t' ages draw)
    (live :
      loadLiveMandate env (t.views ages) draw.now request.mandateId =
        .ok mandate) :
    mandate.principalId = principalId := by
  obtain ⟨old, oldFound, rfl⟩ := givenUp.ofPrincipal
  obtain ⟨row, found, ofMandate⟩ :=
    loaded_later (reachable.later resent.later) .refl live
  obtain ⟨row', found', same⟩ :=
    (later_evolves reachable resent.later).mandates _ _ oldFound
  cases found.symm.trans found'
  rw [← ofMandate, same.1]

/-- The key of a request that is sent again is free since it was given up. -/
theorem GivenUp.stillFree
    {seen : Sys}
    (givenUp : GivenUp request principalId s)
    (reachable : Reachable env ReleasesReserved s)
    (resent : Resent env request s t t' ages draw)
    (live :
      loadLiveMandate env (t.views ages) draw.now request.mandateId =
        .ok mandate)
    (later : Later env ReleasesReserved s seen)
    (evolves : Evolves seen.db t.db) :
    claimOf seen.db mandate.principalId request.idempotencyKey = none := by
  have samePrincipal := givenUp.samePrincipal reachable resent live
  obtain ⟨row, found, ofMandate⟩ :=
    loaded_later (reachable.later resent.later) .refl live
  cases given : truthy request.idempotencyKey with
  | none => simp [claimOf, given]
  | some key =>
      have wasFree := givenUp.free
      simp only [claimOf, given, Option.bind_some] at wasFree ⊢
      rw [← samePrincipal] at wasFree
      refine later_free trivial (fun _ _ isAllowed => isAllowed) reachable
        later wasFree ?_
      intro attempt member operation
      obtain ⟨new, newFound, same⟩ :=
        evolves.invocations _ _ (Table.find_of_mem member)
      have newId : new.id = attempt.id := Table.key_of_find newFound
      rw [← newId]
      apply resent.alone row found key given new (Table.mem_of_find newFound)
      rw [same.operation, operation, ofMandate]

/-- The key is free where the request looks for its claim. -/
theorem GivenUp.seenFree
    (givenUp : GivenUp request principalId s)
    (reachable : Reachable env ReleasesReserved s)
    (resent : Resent env request s t t' ages draw)
    (live :
      loadLiveMandate env (t.views ages) draw.now request.mandateId =
        .ok mandate)
    (statement : Nat) :
    claimOf (t.views ages statement) mandate.principalId
        request.idempotencyKey =
      none := by
  obtain ⟨seen, later, isSeen⟩ :=
    view_since reachable resent.later resent.since statement
  have kept := reachable_kept (reachable.later resent.later)
  have evolves : Evolves seen.db t.db := by
    rw [← isSeen]
    exact kept.seen ages statement
  rw [isSeen]
  exact givenUp.stillFree reachable resent live later evolves

/-- The nonce of a request that is sent again is used up. -/
theorem GivenUp.clashes
    {nonce : String}
    (givenUp : GivenUp request principalId s)
    (reachable : Reachable env ReleasesReserved s)
    (resent : Resent env request s t t' ages draw)
    (given : truthy request.nonce = some nonce)
    (statement : Nat) :
    nonceClash (t.views ages statement) principalId request.nonce = true := by
  obtain ⟨seen, laterSeen, isSeen⟩ :=
    view_since reachable resent.later resent.since statement
  have isBooked :=
    later_booked reachable laterSeen (givenUp.booked nonce given)
  rw [isSeen]
  simp only [nonceClash, given]
  exact isBooked

/-- A request with a nonce is told that it is a replay. -/
theorem GivenUp.replayed
    {nonce : String}
    (givenUp : GivenUp request principalId s)
    (reachable : Reachable env ReleasesReserved s)
    (resent : Resent env request s t t' ages draw)
    (live :
      loadLiveMandate env (t.views ages) draw.now request.mandateId =
        .ok mandate)
    (given : truthy request.nonce = some nonce) :
    ∃ result,
      t'.log = t.log ++ [.answered request result] ∧
        result.reason = some .nonceReplay := by
  have samePrincipal := givenUp.samePrincipal reachable resent live
  have clash := givenUp.clashes reachable resent given 5
  rw [← samePrincipal] at clash
  have gated :=
    gate_of_free live (givenUp.seenFree reachable resent live 4)
  rw [if_pos clash] at gated
  rcases step_invoke resent.taken with
    ⟨result, returned, log⟩ | ⟨attempt, returned, _⟩
  · rw [invokeBegin_eq, gated] at returned
    obtain ⟨_, denyRun, isAnswer⟩ := map_ok returned
    cases isAnswer
    exact ⟨_, log, (deny_ok denyRun).2.1⟩
  · rw [invokeBegin_eq, gated] at returned
    obtain ⟨_, _, isAnswer⟩ := map_ok returned
    cases isAnswer

/-- Without a clash the gate denies for a reason of its own, or lets pass. -/
theorem GivenUp.gated
    (givenUp : GivenUp request principalId s)
    (reachable : Reachable env ReleasesReserved s)
    (resent : Resent env request s t t' ages draw)
    (own : OwnReasons env draw.quoted)
    (noClash :
      ∀ mandate,
        loadLiveMandate env (t.views ages) draw.now request.mandateId =
            .ok mandate →
          truthy request.nonce = none) :
    (∃ principalId mandateId outcome remaining,
      gate env (t.views ages) request draw =
          .denied principalId mandateId outcome remaining ∧
        outcome.reason ∉ repeatReasons) ∨
      ∃ mandate price,
        gate env (t.views ages) request draw = .passes mandate price := by
  cases live :
      loadLiveMandate env (t.views ages) draw.now request.mandateId with
  | error outcome =>
      have gated :
          gate env (t.views ages) request draw =
            .denied
              (((t.views ages 0).mandates.find request.mandateId).map
                Mandate.principalId)
              request.mandateId outcome
              (((t.views ages 0).mandates.find request.mandateId).map
                Mandate.remainingCents) := by
        unfold gate
        rw [live]
      exact .inl ⟨_, _, _, _, gated, loadLiveMandate_notRepeated _ live⟩
  | ok mandate =>
      have gated := gate_of_free live (givenUp.seenFree reachable resent live 4)
      rw [nonceClash_of_none (noClash mandate live)] at gated
      cases priced :
          checkedPrice env (t.views ages 6) mandate request draw.quoted with
      | error outcome =>
          rw [priced] at gated
          exact .inl
            ⟨_, _, _, _, gated, checkedPrice_notRepeated own _ priced⟩
      | ok price =>
          rw [priced] at gated
          exact .inr ⟨mandate, price, gated⟩

/-- What a request that passes the gate again meets in the database. -/
theorem GivenUp.bookedAgain
    {price : Cents}
    {begun : Begun}
    {db' : Db}
    (givenUp : GivenUp request principalId s)
    (reachable : Reachable env ReleasesReserved s)
    (resent : Resent env request s t t' ages draw)
    (passes : gate env (t.views ages) request draw = .passes mandate price)
    (returned :
      exec (invokeBegin env (t.views ages) request draw) t.db =
        (.ok begun, db')) :
    ∃ row booked taskId,
      t.db.mandates.find request.mandateId = some row ∧
        booked.mandates.find mandate.id = some row ∧
        claimOf booked mandate.principalId request.idempotencyKey = none ∧
        exec
            (reserveOrAnswer (t.views ages 7) mandate price request
              (requestFingerprint env request) (some taskId) draw)
            booked =
          (.ok begun, db') := by
  have passed := gate_passes_iff.mp passes
  have kept := reachable_kept (reachable.later resent.later)
  obtain ⟨row, stored, _⟩ := passed.stored (kept.seen ages)
  have loadedId : mandate.id = request.mandateId :=
    Table.key_of_find (loadLiveMandate_ok passed.live).1
  rw [invokeBegin_eq, passes] at returned
  obtain ⟨taskId, booked, books, reserveRun⟩ := bookAndReserve_iff.mp returned
  refine ⟨row, booked, taskId, loadedId ▸ stored, ?_, ?_, reserveRun⟩
  · rw [books.others.1]
    exact stored
  · rw [books.claimOf]
    exact givenUp.stillFree reachable resent passed.live resent.later (.refl _)

/-- A request that meets no clash is processed like a fresh one. -/
theorem GivenUp.processedFresh
    (givenUp : GivenUp request principalId s)
    (reachable : Reachable env ReleasesReserved s)
    (resent : Resent env request s t t' ages draw)
    (own : OwnReasons env draw.quoted)
    (noClash :
      ∀ mandate,
        loadLiveMandate env (t.views ages) draw.now request.mandateId =
            .ok mandate →
          truthy request.nonce = none) :
    ProcessedFresh env request t t' ages draw where
  answer result answered := by
    rcases step_invoke resent.taken with ⟨_, returned, log⟩ | ⟨_, _, log⟩
    · rw [log] at answered
      cases List.append_cancel_left answered
      rcases givenUp.gated reachable resent own noClash with
        ⟨_, _, _, _, gated, other⟩ | ⟨mandate, price, passes⟩
      · rw [invokeBegin_eq, gated] at returned
        exact .of_denied returned other
      · obtain ⟨_, _, _, _, stored, free, reserveRun⟩ :=
          givenUp.bookedAgain reachable resent passes returned
        exact .of_raised stored free reserveRun
    · rw [log] at answered
      cases List.append_cancel_left answered
  reserves := by
    rintro ⟨mandate, price, row, live, priced, nonnegative, found, guarded⟩
    have passes :
        gate env (t.views ages) request draw = .passes mandate price :=
      gate_passes_iff.mpr
        { live := live
          notCached :=
            loadIdem_free (givenUp.seenFree reachable resent live 4)
          nonceFree := nonceClash_of_none (noClash mandate live)
          priced := priced }
    have opens
        {begun : Begun}
        {db' : Db}
        (returned :
          exec (invokeBegin env (t.views ages) request draw) t.db =
            (.ok begun, db')) :
        ∃ attempt,
          begun = .reserved attempt ∧
            attempt.invocation.id = draw.newInvocationId ∧
            (db'.reservations.find draw.newReservationId).isSome = true := by
      obtain ⟨row', _, _, found', stored, free, reserveRun⟩ :=
        givenUp.bookedAgain reachable resent passes returned
      cases found.symm.trans found'
      exact
        reserveOrAnswer_debitable stored free nonnegative guarded reserveRun
    rcases step_invoke resent.taken with
      ⟨_, returned, _⟩ | ⟨_, returned, log⟩
    · obtain ⟨_, isAnswer, _⟩ := opens returned
      cases isAnswer
    · obtain ⟨_, isAttempt, isId, reserved⟩ := opens returned
      cases isAttempt
      rw [isId] at log
      exact ⟨log, reserved⟩

end Resent

/-! ## Which requests can be sent again -/

/--
A request that was not served is processed like a fresh one exactly when it
carries no nonce, or its mandate is not live when it is sent again.
-/
theorem retried_fresh_iff
    {env : Env}
    {request : InvokeRequest}
    {s t t' : Sys}
    {ages : List Nat}
    {draw : InvokeDraw}
    (unserved : Unserved env request s)
    (resent : Resent env request s t t' ages draw)
    (own : OwnReasons env draw.quoted) :
    ProcessedFresh env request t t' ages draw ↔
      truthy request.nonce = none ∨
        ∀ mandate,
          loadLiveMandate env (t.views ages) draw.now request.mandateId ≠
            .ok mandate := by
  obtain ⟨principalId, givenUp⟩ := unserved.givenUp
  have reachable := unserved.reachable
  constructor
  · intro fresh
    by_contra carries
    rw [not_or] at carries
    obtain ⟨nonce, given⟩ := Option.ne_none_iff_exists'.mp carries.1
    push Not at carries
    obtain ⟨mandate, live⟩ := carries.2
    obtain ⟨result, log, isReplay⟩ :=
      givenUp.replayed reachable resent live given
    exact (fresh.answer result log).notRepeated _ isReplay List.mem_cons_self
  · rintro (noNonce | notLive)
    · exact givenUp.processedFresh reachable resent own fun _ _ => noNonce
    · apply givenUp.processedFresh reachable resent own
      intro mandate live
      exact (notLive mandate live).elim

/-- A step is the answer to a request, for this reason and not a replay. -/
def answers (s s' : Sys) (request : InvokeRequest) (reason : Reason) : Bool :=
  s'.log.getLast?.any fun
    | .answered sent result =>
        sent = request && s'.log = s.log ++ [.answered sent result] &&
          !result.replayed && result.reason = some reason
    | _ => false

/-- What a step has answered. -/
theorem answered_of_answers
    {s s' : Sys}
    {request : InvokeRequest}
    {reason : Reason}
    (isAnswer : answers s s' request reason = true) :
    ∃ result,
      s'.log = s.log ++ [.answered request result] ∧
        result.replayed = false ∧
        result.reason = some reason := by
  obtain ⟨entry, _, isEntry⟩ := (Option.any_eq_true _ _).mp isAnswer
  cases entry with
  | answered sent result =>
      simp only [Bool.and_eq_true, decide_eq_true_eq, Bool.not_eq_true']
        at isEntry
      obtain ⟨⟨⟨rfl, log⟩, notReplayed⟩, isReason⟩ := isEntry
      exact ⟨result, log, notReplayed, isReason⟩
  | _ => cases isEntry

/-- A retry of a request whose attempts are all older than its end. -/
theorem Resent.of_old
    {env : Env}
    {request : InvokeRequest}
    {s t t' : Sys}
    {draw : InvokeDraw}
    (later : Later env ReleasesReserved s t)
    (old :
      ∀ row ∈ t.db.invocations.rows,
        (s.db.invocations.find row.id).isSome = true)
    (taken : step env t (.invoke [] request draw) = some t') :
    Resent env request s t t' [] draw where
  later := later
  since := by simp [Since]
  alone _ _ _ _ row member _ := old row member
  taken := taken

/-- The small deployment gives its reasons from the lists of the source. -/
theorem ownReasons_plain (price : Cents) : OwnReasons .plain (.ok price) where
  quote := .ok
  validateArguments _ _ := .ok

/-- A call that was released is reserved when it is sent again. -/
theorem released_call_retried :
    ∃ s t',
      Unserved .plain call s ∧
        Resent .plain call s s t' [] (drawTen 2) ∧
        ProcessedFresh .plain call s t' [] (drawTen 2) := by
  have checked :
      (run .plain Sys.start deploy).any
          (fun s => (step .plain s (.invoke [] call (drawTen 1))).any
            fun s₁ => (s₁.db.invocations.find 1).any fun invocation =>
              (step .plain s₁
                  (.txn [] (.recoverReserved invocation "release"))).any
                fun s' =>
                  (s'.db.invocations.find invocation.id).any
                      (·.status = .released) &&
                    s₁.log = s.log ++ [.reserved invocation.id] &&
                    s₁.db.invocations.find invocation.id =
                      some invocation &&
                    invocation.status = .reserved &&
                    (step .plain s' (.invoke [] call (drawTen 2))).isSome) =
        true := by
    decide +kernel
  obtain ⟨s, reachable, passes⟩ :=
    reachable_of_check (.routine (by decide) .release _) checked
  simp only [Option.any_eq_true, Bool.and_eq_true, decide_eq_true_eq,
    Option.isSome_iff_exists] at passes
  obtain ⟨s₁, taken, invocation, _, s', releases, ⟨⟨⟨⟨after, isFound,
    isReleased⟩, reserved⟩, wasFound⟩, wasReserved⟩, t', retaken⟩ := passes
  have unserved : Unserved .plain call s' :=
    .released reachable taken reserved .refl releases wasFound wasReserved
      isFound isReleased
  have stored (row : Invocation) (member : row ∈ s'.db.invocations.rows) :
      (s'.db.invocations.find row.id).isSome = true :=
    Option.isSome_iff_exists.mpr ⟨row, Table.find_of_mem member⟩
  have resent : Resent .plain call s' s' t' [] (drawTen 2) :=
    .of_old .refl stored retaken
  exact ⟨s', t', unserved, resent,
    (retried_fresh_iff unserved resent (ownReasons_plain 10)).mpr (.inl rfl)⟩

/-- A draw at a price of sixty cents. -/
def drawSixty (newId : Id) : InvokeDraw :=
  { drawTen newId with quoted := .ok 60 }

/-- Another call, under a key of its own. -/
def otherCall : InvokeRequest :=
  { call with idempotencyKey := some "other" }

/-- A call with a key and a nonce. -/
def noncedRetry : InvokeRequest :=
  { call with nonce := some "n" }

/-- Each statement of a call sees the state before the last one. -/
def oneBehind : List Nat :=
  List.replicate 8 1

/-- The gate lets pass. -/
def Gate.isPassed : Gate → Bool
  | .passes .. => true
  | _ => false

/-- What the gate lets pass has a mandate and a price. -/
theorem Gate.passes_of_isPassed
    {gated : Gate}
    (isPassed : gated.isPassed = true) :
    ∃ mandate price, gated = .passes mandate price := by
  cases gated with
  | passes mandate price => exact ⟨mandate, price, rfl⟩
  | _ => cases isPassed

/-- The mandate lets the request reserve. -/
def mandateAllows
    (env : Env)
    (request : InvokeRequest)
    (t : Sys)
    (ages : List Nat)
    (draw : InvokeDraw) :
    Bool :=
  match loadLiveMandate env (t.views ages) draw.now request.mandateId with
  | .error _ => false
  | .ok mandate =>
      match checkedPrice env (t.views ages 6) mandate request draw.quoted with
      | .error _ => false
      | .ok price =>
          0 ≤ price &&
            (t.db.mandates.find request.mandateId).any
              (debitGuard draw.debitNow price)

/-- What is computed of a mandate holds. -/
theorem mandateAllows_sound
    {env : Env}
    {request : InvokeRequest}
    {t : Sys}
    {ages : List Nat}
    {draw : InvokeDraw}
    (allows : mandateAllows env request t ages draw = true) :
    MandateAllows env request t ages draw := by
  unfold mandateAllows at allows
  split at allows
  · cases allows
  · next mandate live =>
      split at allows
      · cases allows
      · next price priced =>
          simp only [Bool.and_eq_true, decide_eq_true_eq,
            Option.any_eq_true] at allows
          obtain ⟨nonnegative, row, found, guarded⟩ := allows
          exact ⟨mandate, price, row, live, priced, nonnegative, found, guarded⟩

/--
A call with a nonce loses a race for the money and is denied.  When the other
attempt is released, the same call is told that it is a replay.
-/
theorem denied_call_is_its_replay :
    ∃ s t t',
      Unserved .plain noncedRetry s ∧
        Resent .plain noncedRetry s t t' [] (drawSixty 3) ∧
        OwnReasons .plain (drawSixty 3).quoted ∧
        MandateAllows .plain noncedRetry t [] (drawSixty 3) ∧
        ¬ ProcessedFresh .plain noncedRetry t t' [] (drawSixty 3) := by
  have checked :
      (run .plain Sys.start
            (deploy ++ [.invoke [] otherCall (drawSixty 1)])).any
          (fun s =>
            (gate .plain (s.views oneBehind) noncedRetry
                (drawSixty 2)).isPassed &&
              (step .plain s
                  (.invoke oneBehind noncedRetry (drawSixty 2))).any fun s' =>
                answers s s' noncedRetry .budgetExceeded &&
                  (s'.db.invocations.find 1).any fun invocation =>
                    (step .plain s'
                        (.txn []
                          (.recoverReserved invocation "release"))).any
                      fun t =>
                        t.db.invocations.rows.all
                            (fun row =>
                              (s'.db.invocations.find row.id).isSome) &&
                          mandateAllows .plain noncedRetry t []
                            (drawSixty 3) &&
                          (step .plain t
                              (.invoke [] noncedRetry (drawSixty 3))).any
                            fun t' => answers t t' noncedRetry .nonceReplay) =
        true := by
    decide +kernel
  obtain ⟨s, reachable, passes⟩ :=
    reachable_of_check (.routine (by decide) .release _) checked
  simp only [Option.any_eq_true, Bool.and_eq_true] at passes
  obtain ⟨isPassed, s', taken, isDenied, invocation, _, t, releases,
    ⟨old, allows⟩, t', retaken, isReplay⟩ := passes
  obtain ⟨mandate, price, gated⟩ := Gate.passes_of_isPassed isPassed
  obtain ⟨result, log, notReplayed, isReason⟩ := answered_of_answers isDenied
  obtain ⟨again, logAgain, _, isReplay⟩ := answered_of_answers isReplay
  have refunded :
      ReleasesReserved s'
        (.txn [] (.recoverReserved invocation "release")) :=
    Discipline.allows_routine _ rfl
  refine
    ⟨s', t, t',
      .denied reachable gated taken log notReplayed isReason,
      .of_old (.single ⟨_, refunded, releases⟩)
        (List.all_eq_true.mp old) retaken,
      ownReasons_plain 60, mandateAllows_sound allows, ?_⟩
  intro fresh
  exact
    (fresh.answer again logAgain).notRepeated _ isReplay List.mem_cons_self

end Crossing

import Crossing.InvokeEffects

namespace Crossing

open Relational
open Relational.Transaction

/-!
# What one step can do

`Stepped` lists the steps of the system with what is known of each, and
`stepped` shows that the list is complete.  The invariant `Kept` on which this
rests says that sessions and calls hold earlier versions of stored rows.
-/

/-- Sessions and calls hold earlier versions of what is stored. -/
structure Sys.Kept (env : Env) (s : Sys) : Prop where
  views : ∀ view ∈ s.states, Evolves view s.db
  calls : ∀ call ∈ s.calls.rows, call.attempt.Stored env s.db

/-- The rules of a discipline concern the direct transactions. -/
def Discipline.Allows (discipline : Discipline) : Action → Prop
  | .txn _ txn => discipline.Obeyed txn
  | _ => True

/-- Without rules every action is allowed. -/
theorem Discipline.free_allows (action : Action) :
    Discipline.free.Allows action := by
  cases action with
  | txn =>
      exact ⟨False.elim, False.elim, False.elim, False.elim, False.elim,
        False.elim⟩
  | _ => trivial

section Views

variable {env : Env} {s : Sys}

/-- Statements see committed states. -/
theorem Sys.views_mem
    (s : Sys)
    (ages : List Nat)
    (statement : Nat) :
    s.views ages statement ∈ s.states := by
  unfold Sys.views
  rw [List.getD_eq_getElem?_getD]
  cases found : s.states[ages.getD statement 0]? with
  | none =>
      exact List.mem_cons_self
  | some view =>
      exact List.mem_of_getElem? found

/-- Statements see earlier versions of the database. -/
theorem Sys.Kept.seen
    (kept : s.Kept env)
    (ages : List Nat) :
    Seen (s.views ages) s.db :=
  fun statement => kept.views _ (s.views_mem ages statement)

/-- An attempt a session holds is an earlier version of a stored one. -/
theorem Sys.Kept.heldAttempt
    {invocation : Invocation}
    (kept : s.Kept env)
    (known : s.Known Db.invocations invocation) :
    HeldAttempt s.db invocation := by
  obtain ⟨view, member, found⟩ := known
  exact (kept.views view member).invocations _ _ found

/-- A mandate a session holds has the principal of the stored one. -/
theorem Sys.Kept.samePrincipal
    {mandate : Mandate}
    (kept : s.Kept env)
    (known : s.Known Db.mandates mandate) :
    ∀ row, s.db.mandates.find mandate.id = some row →
      row.principalId = mandate.principalId := by
  intro row found
  obtain ⟨view, member, loaded⟩ := known
  obtain ⟨row', found', same⟩ :=
    (kept.views view member).mandates _ _ loaded
  have isRow : row' = row :=
    Option.some.inj (found'.symm.trans found)
  rw [← isRow, same.1]

end Views

/-- A direct transaction that commits has one of the effects. -/
theorem txn_effect
    {env : Env}
    {discipline : Discipline}
    {s : Sys}
    {ages : List Nat}
    {txn : Txn}
    {entries : List Entry}
    {db' : Db}
    (kept : s.Kept env)
    (loaded : txn.Loaded s)
    (obeyed : discipline.Obeyed txn)
    (returned :
      exec (txn.body env (s.views ages)) s.db = (.ok entries, db')) :
    Effect env discipline (.txn txn) s.db entries db' := by
  have seen := kept.seen ages
  cases txn with
  | createPrincipal =>
      obtain ⟨_, run, rfl⟩ := map_ok returned
      exact createPrincipal_effect run
  | createAgent =>
      obtain ⟨_, run, rfl⟩ := map_ok returned
      exact createAgent_effect seen run
  | revokeAgent =>
      obtain ⟨_, run, rfl⟩ := map_ok returned
      exact revokeAgent_effect run
  | issueMandate =>
      obtain ⟨_, run, rfl⟩ := map_ok returned
      exact issueMandate_effect seen run
  | revokeMandate =>
      obtain ⟨_, run, rfl⟩ := map_ok returned
      exact revokeMandate_effect run
  | reserve =>
      exact reserve_effect obeyed.paired returned
  | reserveAndCommit =>
      exact reserveAndCommit_effect obeyed.byInvoke
        (kept.samePrincipal loaded) returned
  | markExecuting =>
      obtain ⟨_, run, rfl⟩ := map_ok returned
      exact markExecuting_effect run
  | markExecutedFail =>
      obtain ⟨_, run, rfl⟩ := map_ok returned
      exact markExecutedFail_effect run
  | recoverReserved =>
      obtain ⟨_, run, rfl⟩ := map_ok returned
      exact recoverReserved_effect seen run
  | finalizeSuccess =>
      obtain ⟨_, run, rfl⟩ := map_ok returned
      exact finalizeSuccess_effect (kept.heldAttempt loaded.2)
        obeyed.paired obeyed.metered (fun rule => (obeyed.viaApi rule).elim)
        (fun rule => (obeyed.ownFinalize rule).elim) run
  | finalizeRelease reservation invocation allowedStatuses =>
      obtain ⟨_, run, rfl⟩ := map_ok returned
      cases reservation with
      | none =>
          exact finalizeRelease_effect (kept.heldAttempt loaded)
            (by simp) obeyed.defaultRelease run
      | some given =>
          refine finalizeRelease_effect (kept.heldAttempt loaded.2) ?_
            obeyed.defaultRelease run
          intro rule passed isPassed
          cases isPassed
          exact obeyed.paired rule
  | commit =>
      obtain ⟨_, run, rfl⟩ := map_ok returned
      rcases commit_ok run with rfl | ⟨row, _, found, held, rfl⟩
      · exact .idle
      · exact .committedOnly obeyed.paired found held _ _ ⟨_, rfl⟩
  | release =>
      obtain ⟨_, run, rfl⟩ := map_ok returned
      rcases release_ok run with rfl | ⟨row, found, held, rfl⟩
      · exact .idle
      · exact .refundedOnly obeyed.paired found held _ _ rfl
  | reconcileCommit =>
      obtain ⟨_, run, rfl⟩ := map_ok returned
      exact reconcileCommit_effect (kept.heldAttempt loaded) obeyed.paired
        obeyed.metered (fun rule => (obeyed.viaApi rule).elim) run
  | reconcileRelease =>
      obtain ⟨_, run, rfl⟩ := map_ok returned
      exact reconcileRelease_effect (kept.heldAttempt loaded) run
  | postReconcile =>
      obtain ⟨_, run, rfl⟩ := map_ok returned
      exact postReconcile_effect seen run
  | attachStripeCustomer =>
      obtain ⟨_, run, rfl⟩ := map_ok returned
      exact attachStripeCustomer_effect run
  | applyStripeEvent =>
      obtain ⟨_, run, rfl⟩ := map_ok returned
      exact applyStripeEvent_effect run
  | claimOutboxRows =>
      obtain ⟨_, run, rfl⟩ := map_ok returned
      obtain ⟨outbox, rfl, sameBills⟩ := claimEach_drained run
      exact .drained sameBills
  | casTerminalFromSending =>
      obtain ⟨_, run, rfl⟩ := map_ok returned
      obtain ⟨outbox, rfl, sameBills⟩ := casTerminalFromSending_drained run
      exact .drained sameBills
  | requeueDead =>
      obtain ⟨_, run, rfl⟩ := map_ok returned
      obtain ⟨_, _, flushRun, answer⟩ := bind_ok run
      cases flushRun
      cases answer
      exact .drained (requeueEach_bills _ _ _)

/-- The transactions that may reconcile an attempt. -/
def Txn.reconciles : Txn → Bool
  | .reconcileCommit .. | .reconcileRelease .. | .postReconcile .. => true
  | _ => false

/-- Only they leave evidence in the log. -/
theorem txn_noEvidence
    {env : Env}
    {views : Views}
    {txn : Txn}
    {entries : List Entry}
    {db db' : Db}
    (notReconciles : txn.reconciles = false)
    (returned : exec (txn.body env views) db = (.ok entries, db')) :
    ∀ event, .reconciled event ∉ entries := by
  cases txn with
  | reserve =>
      rcases caught_ok returned with finished | ⟨_, _, rfl⟩
      · obtain ⟨_, _, rfl⟩ := map_ok finished
        simp
      · simp
  | reserveAndCommit =>
      rcases caught_ok returned with finished | ⟨_, _, rfl⟩
      · obtain ⟨_, _, rfl⟩ := map_ok finished
        simp
      · simp
  | markExecuting =>
      obtain ⟨marked, _, rfl⟩ := map_ok returned
      cases marked.won <;> simp
  | reconcileCommit => cases notReconciles
  | reconcileRelease => cases notReconciles
  | postReconcile => cases notReconciles
  | _ =>
      obtain ⟨_, _, rfl⟩ := map_ok returned
      simp

/-- The steps of the system, with what is known of each. -/
inductive Stepped
    (env : Env)
    (discipline : Discipline)
    (s : Sys) :
    Action → Sys → Prop where
  | txn
      {ages : List Nat}
      {txn : Txn}
      {entries : List Entry}
      {db' : Db}
      (ran :
        exec (txn.body env (s.views ages)) s.db = (.ok entries, db'))
      (effect : Effect env discipline (.txn txn) s.db entries db') :
      Stepped env discipline s (.txn ages txn) (s.commit db' entries)
  | answered
      {ages : List Nat}
      {request : InvokeRequest}
      {draw : InvokeDraw}
      {result : InvokeResult}
      {db' : Db}
      (effect : Effect env discipline .call s.db [] db')
      (replays :
        result.ok = true →
          ∃ loaded statement,
            loadLiveMandate env (s.views ages) draw.now
                request.mandateId =
              .ok loaded ∧
              Replays (s.views ages statement) loaded.principalId
                request.idempotencyKey (requestFingerprint env request)
                result) :
      Stepped env discipline s (.invoke ages request draw)
        (s.commit db' [.answered request result])
  | began
      {ages : List Nat}
      {request : InvokeRequest}
      {draw : InvokeDraw}
      {loaded : Mandate}
      {attempt : Attempt}
      {calls : Table InvokeCall}
      {db' : Db}
      (begins :
        Begins env (s.views ages) request draw s.db loaded attempt)
      (effect :
        Effect env discipline .call s.db [.reserved attempt.invocation.id]
          db')
      (stored : attempt.Stored env db')
      (inserted : s.calls.insert? ⟨attempt, .reserved⟩ = some calls)
      (reserved :
        s.db.reservations.insert? attempt.reservation =
          some db'.reservations) :
      Stepped env discipline s (.invoke ages request draw)
        { s.commit db' [.reserved attempt.invocation.id] with
          calls := calls }
  | marked
      {attempt : Attempt}
      {row : Invocation}
      (call :
        s.calls.find attempt.invocation.id = some ⟨attempt, .reserved⟩)
      (found : s.db.invocations.find row.id = some row)
      (sameId : row.id = attempt.invocation.id)
      (reserved : row.status = .reserved) :
      Stepped env discipline s (.mark attempt.invocation.id)
        ((s.commit (movedDb s.db row .executing)
          [.executing attempt.invocation.id]).advance
          ⟨attempt, .reserved⟩ .executing)
  | unmarked
      {attempt : Attempt}
      {result : InvokeResult}
      (call :
        s.calls.find attempt.invocation.id = some ⟨attempt, .reserved⟩)
      (failed : result.ok = false) :
      Stepped env discipline s (.mark attempt.invocation.id)
        ((s.commit s.db [.answered attempt.request result]).advance
          ⟨attempt, .reserved⟩ (.finished result))
  | dispatched
      {attempt : Attempt}
      (call :
        s.calls.find attempt.invocation.id = some ⟨attempt, .executing⟩) :
      Stepped env discipline s (.dispatch attempt.invocation.id)
        ((s.record [.dispatched attempt.invocation.id]).advance
          ⟨attempt, .executing⟩ .dispatched)
  | returned
      {attempt : Attempt}
      {toolResult : JsonText}
      (call :
        s.calls.find attempt.invocation.id = some ⟨attempt, .dispatched⟩) :
      Stepped env discipline s
        (.providerReturns attempt.invocation.id toolResult)
        ((s.record [.returned attempt.invocation.id]).advance
          ⟨attempt, .dispatched⟩ (.returned toolResult))
  | raised
      {attempt : Attempt}
      {error : String}
      (call :
        s.calls.find attempt.invocation.id = some ⟨attempt, .dispatched⟩) :
      Stepped env discipline s
        (.providerRaises attempt.invocation.id error)
        (s.advance ⟨attempt, .dispatched⟩ (.raised error))
  | failed
      {attempt : Attempt}
      {error : String}
      {result : InvokeResult}
      {db' : Db}
      (call :
        s.calls.find attempt.invocation.id = some ⟨attempt, .raised error⟩)
      (failed : result.ok = false)
      (effect : Effect env discipline .call s.db [] db') :
      Stepped env discipline s (.fail attempt.invocation.id)
        ((s.commit db' [.answered attempt.request result]).advance
          ⟨attempt, .raised error⟩ (.finished result))
  | lost
      {attempt : Attempt}
      {toolResult : JsonText}
      {draw : FinishDraw}
      {result : InvokeResult}
      (call :
        s.calls.find attempt.invocation.id =
          some ⟨attempt, .returned toolResult⟩)
      (failed : result.ok = false) :
      Stepped env discipline s (.finish attempt.invocation.id draw)
        ((s.commit s.db [.answered attempt.request result]).advance
          ⟨attempt, .returned toolResult⟩ (.finished result))
  | finished
      {attempt : Attempt}
      {toolResult : JsonText}
      {draw : FinishDraw}
      {row : Reservation}
      {invocation : Invocation}
      {remaining : Option Cents}
      {receipt : Option Receipt}
      {receipts : Table Receipt}
      {outbox : Table Outbox}
      {accounts : Table Account}
      {claims : Table IdempotencyRecord}
      (call :
        s.calls.find attempt.invocation.id =
          some ⟨attempt, .returned toolResult⟩)
      (settling :
        Settled env (attempt.callbacks toolResult draw)
          ((attempt.callbacks toolResult draw).payload env) s.db row
          invocation receipt receipts outbox accounts claims)
      (rowId : row.id = attempt.reservation.id)
      (sameId : invocation.id = attempt.invocation.id)
      (fromStatus :
        invocation.status ∈
          [InvocationStatus.executing, .executedOk])
      (issued :
        receipt =
          (attempt.callbacks toolResult draw).receiptFn.map
            (issuedReceipt env))
      (effect :
        Effect env discipline (.finish attempt.invocation.id) s.db []
          (settledDb s.db row invocation .committed remaining receipts
            outbox accounts claims []))
      (balance : remaining = sessionRemaining attempt.sessionMandate row) :
      Stepped env discipline s (.finish attempt.invocation.id draw)
        ((s.commit
            (settledDb s.db row invocation .committed remaining receipts
              outbox accounts claims [])
            [.answered attempt.request
              (attempt.success toolResult receipt)]).advance
          ⟨attempt, .returned toolResult⟩
          (.finished (attempt.success toolResult receipt)))

/-- A call that is found under an id is the call of that attempt. -/
theorem call_id
    {s : Sys}
    {id : Id}
    {attempt : Attempt}
    {state : CallState}
    (call : s.calls.find id = some ⟨attempt, state⟩) :
    attempt.invocation.id = id :=
  Table.key_of_find call

/-- Every step is one of the listed ones. -/
theorem stepped
    {env : Env}
    {discipline : Discipline}
    {s s' : Sys}
    {action : Action}
    (kept : s.Kept env)
    (allowed : discipline.Allows action)
    (taken : step env s action = some s') :
    Stepped env discipline s action s' := by
  cases action with
  | txn ages txn =>
      simp only [step] at taken
      split at taken
      · obtain ⟨⟨entries, db'⟩, committed, rfl⟩ :=
          Option.map_eq_some_iff.mp taken
        have ran := commit_eq_some.mp committed
        rename_i ready
        exact .txn ran (txn_effect kept ready.2 allowed ran)
      · cases taken
  | invoke ages request draw =>
      simp only [step] at taken
      split at taken
      · have seen := kept.seen ages
        cases committed :
            Transaction.commit (invokeBegin env (s.views ages) request draw)
              s.db with
        | none =>
            simp only [committed] at taken
            cases taken
        | some outcome =>
            obtain ⟨begun, db'⟩ := outcome
            have ran := commit_eq_some.mp committed
            rcases invokeBegin_ok seen ran with
              ⟨result, rfl, answers⟩ | ⟨attempt, loaded, rfl, opens⟩
            · simp only [committed] at taken
              cases taken
              exact .answered answers.effect answers.replays
            · simp only [committed] at taken
              obtain ⟨calls, inserted, rfl⟩ :=
                Option.map_eq_some_iff.mp taken
              exact .began opens.begins opens.effect opens.stored inserted
                opens.reserved
      · cases taken
  | mark id =>
      simp only [step] at taken
      split at taken
      · rename_i attempt call
        obtain rfl := call_id call
        obtain ⟨⟨answer, db'⟩, committed, shape⟩ :=
          Option.map_eq_some_iff.mp taken
        rcases invokeMark_ok (commit_eq_some.mp committed) with
          ⟨result, rfl, failed, rfl⟩ |
          ⟨row, rfl, found, sameId, reserved, rfl⟩
        · cases shape
          exact .unmarked call failed
        · cases shape
          exact .marked call found sameId reserved
      · cases taken
  | dispatch id =>
      simp only [step] at taken
      split at taken
      · rename_i attempt call
        obtain rfl := call_id call
        cases taken
        exact .dispatched call
      · cases taken
  | providerReturns id toolResult =>
      simp only [step] at taken
      split at taken
      · rename_i attempt call
        obtain rfl := call_id call
        cases taken
        exact .returned call
      · cases taken
  | providerRaises id error =>
      simp only [step] at taken
      split at taken
      · rename_i attempt call
        obtain rfl := call_id call
        cases taken
        exact .raised call
      · cases taken
  | fail id =>
      simp only [step] at taken
      split at taken
      · rename_i attempt error call
        obtain rfl := call_id call
        obtain ⟨⟨result, db'⟩, committed, rfl⟩ :=
          Option.map_eq_some_iff.mp taken
        obtain ⟨failed, effect⟩ :=
          invokeFail_ok (commit_eq_some.mp committed)
        exact .failed call failed effect
      · cases taken
  | finish id draw =>
      simp only [step] at taken
      split at taken
      · rename_i attempt toolResult call
        obtain rfl := call_id call
        obtain ⟨⟨result, db'⟩, committed, rfl⟩ :=
          Option.map_eq_some_iff.mp taken
        have ran := commit_eq_some.mp committed
        have stored := kept.calls _ (Table.mem_of_find call)
        have effect :
            Effect env discipline (.finish attempt.invocation.id) s.db [] db' :=
          invokeFinish_effect stored ran
        rcases invokeFinish_ok ran with
          ⟨failed, rfl⟩ |
          ⟨row, invocation, receipt, receipts, outbox, accounts, claims,
            settling, rowId, sameId, fromStatus, rfl, issued, rfl⟩
        · exact .lost call failed
        · exact .finished call settling rowId sameId fromStatus issued effect
            rfl
      · cases taken

/-! ## From steps to runs -/

namespace Stepped

variable
  {env : Env}
  {discipline : Discipline}
  {s s' : Sys}
  {action : Action}

/-- Every step has an effect, of the transaction it runs if it runs one. -/
theorem effect_origin
    (stepped : Stepped env discipline s action s') :
    ∃ origin entries,
      (∀ txn, origin = .txn txn → ∃ ages, action = .txn ages txn) ∧
        Effect env discipline origin s.db entries s'.db := by
  have call {entries : List Entry}
      (effect : Effect env discipline .call s.db entries s'.db) :
      ∃ origin entries,
        (∀ txn, origin = .txn txn → ∃ ages, action = .txn ages txn) ∧
          Effect env discipline origin s.db entries s'.db := by
    refine ⟨.call, entries, ?_, effect⟩
    intro txn isTxn
    cases isTxn
  cases stepped with
  | @txn ages txn _ _ _ effect =>
      refine ⟨.txn txn, _, ?_, effect⟩
      intro given isGiven
      cases isGiven
      exact ⟨ages, rfl⟩
  | answered effect _ => exact call effect
  | began _ effect => exact call effect
  | @marked _ row _ found _ reserved =>
      have move : Move row.status .executing := reserved ▸ .execute
      exact call (.moved found move)
  | failed _ _ effect => exact call effect
  | finished _ _ _ _ _ _ effect =>
      refine ⟨_, _, ?_, effect⟩
      intro txn isTxn
      cases isTxn
  | unmarked => exact call .idle
  | dispatched => exact call .idle
  | returned => exact call .idle
  | raised => exact call .idle
  | lost => exact call .idle

/-- Every step has an effect on the database. -/
theorem effect
    (stepped : Stepped env discipline s action s') :
    ∃ origin entries, Effect env discipline origin s.db entries s'.db := by
  obtain ⟨origin, entries, _, effect⟩ := stepped.effect_origin
  exact ⟨origin, entries, effect⟩

/-- Every step keeps the rows of the database. -/
theorem evolves
    (stepped : Stepped env discipline s action s') :
    Evolves s.db s'.db := by
  obtain ⟨_, _, effect⟩ := stepped.effect
  exact effect.evolves

/-- The committed states after a step: the new one, and those before. -/
theorem states_subset
    (stepped : Stepped env discipline s action s') :
    ∀ view ∈ s'.states, view = s'.db ∨ view ∈ s.states := by
  intro view member
  rcases List.mem_cons.mp member with isNew | isOld
  · exact .inl isNew
  · right
    cases stepped <;> first
      | exact isOld
      | exact List.mem_cons_of_mem _ isOld

/-- A step keeps, advances or begins a call. -/
theorem call_origin
    (stepped : Stepped env discipline s action s') :
    ∀ call ∈ s'.calls.rows,
      (∃ before ∈ s.calls.rows, before.attempt = call.attempt) ∨
        ∃ ages request draw loaded,
          action = .invoke ages request draw ∧
            Begins env (s.views ages) request draw s.db loaded
              call.attempt ∧
            call.attempt.Stored env s'.db := by
  intro call member
  have advanced
      (attempt : Attempt)
      (before after : CallState)
      (found :
        s.calls.find attempt.invocation.id = some ⟨attempt, before⟩)
      (inNew :
        call ∈ (s.calls.put { attempt := attempt, state := after }).rows) :
      ∃ before ∈ s.calls.rows, before.attempt = call.attempt := by
    rcases Table.mem_put inNew with rfl | ⟨inOld, _⟩
    · exact ⟨_, Table.mem_of_find found, rfl⟩
    · exact ⟨call, inOld, rfl⟩
  cases stepped with
  | txn => exact .inl ⟨call, member, rfl⟩
  | answered => exact .inl ⟨call, member, rfl⟩
  | began begins _ stored inserted _ =>
      rcases (Table.mem_insert inserted).mp member with inOld | rfl
      · exact .inl ⟨call, inOld, rfl⟩
      · exact .inr ⟨_, _, _, _, rfl, begins, stored⟩
  | marked found => exact .inl (advanced _ _ _ found member)
  | unmarked found => exact .inl (advanced _ _ _ found member)
  | dispatched found => exact .inl (advanced _ _ _ found member)
  | returned found => exact .inl (advanced _ _ _ found member)
  | raised found => exact .inl (advanced _ _ _ found member)
  | failed found => exact .inl (advanced _ _ _ found member)
  | lost found => exact .inl (advanced _ _ _ found member)
  | finished found => exact .inl (advanced _ _ _ found member)

/-- Every step keeps `Kept`. -/
theorem kept
    (stepped : Stepped env discipline s action s')
    (kept : s.Kept env) :
    s'.Kept env where
  views := by
    intro view member
    rcases stepped.states_subset view member with rfl | isOld
    · exact .refl _
    · exact (kept.views view isOld).trans stepped.evolves
  calls := by
    intro call member
    rcases stepped.call_origin call member with
      ⟨before, inOld, same⟩ | ⟨_, _, _, _, _, _, stored⟩
    · rw [← same]
      exact (kept.calls before inOld).evolves stepped.evolves
    · exact stored

end Stepped

/-- Before the first transaction nothing is held. -/
theorem Sys.Kept.start (env : Env) : Sys.start.Kept env where
  views := by
    intro view member
    rw [List.mem_singleton.mp member]
    exact .refl _
  calls := by
    intro call member
    cases member

/-- Sessions and calls hold earlier versions in every reachable state. -/
theorem reachable_kept
    {env : Env}
    {allowed : Sys → Action → Prop}
    {s : Sys}
    (reachable : Reachable env allowed s) :
    s.Kept env := by
  refine Transition.Reachable.invariant ?_ ?_ reachable
  · rintro _ rfl
    exact .start env
  · rintro s s' _ kept ⟨action, _, taken⟩
    exact (stepped kept (Discipline.free_allows action) taken).kept kept

/--
Invariant rule for runs that keep a discipline: what holds at the start and is
kept by every listed step holds in every reachable state.
-/
theorem reachable_invariant
    {env : Env}
    {allowed : Sys → Action → Prop}
    (discipline : Discipline)
    (Invariant : Sys → Prop)
    (keeps : ∀ s action, allowed s action → discipline.Allows action)
    (base : Invariant Sys.start)
    (kept :
      ∀ s s' action,
        Reachable env allowed s →
        Invariant s →
        allowed s action →
        Stepped env discipline s action s' →
        Invariant s')
    {s : Sys}
    (reachable : Reachable env allowed s) :
    Invariant s := by
  refine Transition.Reachable.invariant ?_ ?_ reachable
  · rintro _ rfl
    exact base
  · rintro s s' isReachable holds ⟨action, isAllowed, taken⟩
    have shape :=
      stepped (reachable_kept isReachable) (keeps s action isAllowed) taken
    exact kept s s' action isReachable holds isAllowed shape

/--
Invariant rule for the database alone: what the empty database has and every
effect keeps holds in every reachable state.
-/
theorem reachable_db_invariant
    {env : Env}
    {allowed : Sys → Action → Prop}
    (discipline : Discipline)
    (Invariant : Db → Prop)
    (keeps : ∀ s action, allowed s action → discipline.Allows action)
    (base : Invariant Db.empty)
    (kept :
      ∀ s origin entries db',
        Reachable env allowed s →
        Effect env discipline origin s.db entries db' →
        Invariant s.db →
        Invariant db')
    {s : Sys}
    (reachable : Reachable env allowed s) :
    Invariant s.db := by
  apply reachable_invariant discipline (fun s => Invariant s.db) keeps base
  · intro s s' action isReachable holds _ stepped
    obtain ⟨_, _, effect⟩ := stepped.effect
    exact kept s _ _ _ isReachable effect holds
  · exact reachable

/-- The rows of a reachable database are kept by every later one. -/
theorem later_evolves
    {env : Env}
    {allowed : Sys → Action → Prop}
    {s s' : Sys}
    (reachable : Reachable env allowed s)
    (later : Later env allowed s s') :
    Evolves s.db s'.db := by
  induction later with
  | refl => exact .refl _
  | tail before taken inductionHypothesis =>
      obtain ⟨action, _, taken⟩ := taken
      have kept := reachable_kept (reachable.later before)
      have shape := stepped kept (Discipline.free_allows action) taken
      exact inductionHypothesis.trans shape.evolves

end Crossing

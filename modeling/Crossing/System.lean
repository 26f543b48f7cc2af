import Crossing.Api
import Crossing.TransitionRun

namespace Crossing

open Relational
open Relational.Transaction

/-!
# The running system

Any number of processes run transactions on one database.  A step is one
committed transaction, or one move of an `invoke` call outside the database.
A transaction that raises to its end is undone, so it is no step, and a process
that stops takes no further steps.

A plain SELECT sees a committed state that may be older than the state the
transaction commits on.  An object a session holds is a row of such a state.
-/

/-- What a step leaves in the log of the run. -/
inductive Entry where
  | reserved (invocation : Id)
  | executing (invocation : Id)
  | dispatched (invocation : Id)
  | returned (invocation : Id)
  | reconciled (event : ReconciliationEvent)
  | agentRevoked (agent : Id)
  | answered (request : InvokeRequest) (result : InvokeResult)
  deriving Repr, DecidableEq

/-- The transactions that are not part of an `invoke` call. -/
inductive Txn where
  | createPrincipal
      (pubkeyHex : Option String)
      (accountId : Option Id)
      (newAccountId newId : Id)
  | createAgent (principalId : Id) (parentId : Option Id) (newId : Id)
  | revokeAgent (fuel : Nat) (agentId : Id)
  | issueMandate
      (now debitNow : Datetime)
      (args : IssueMandate)
      (newId : Id)
      (freshNonce : String)
  | revokeMandate (mandateId : Id)
  | reserve
      (now : Datetime)
      (mandate : Mandate)
      (amountCents : Cents)
      (idempotencyKey nonce : Option String)
      (taskId : Option Id)
      (recordDeny : Bool)
      (newId : Id)
  | reserveAndCommit
      (now : Datetime)
      (mandate : Mandate)
      (amountCents : Cents)
      (idempotencyKey nonce : Option String)
      (tool server : String)
      (requestHash : Option String)
      (taskId : Option Id)
      (reservationNewId invocationNewId : Id)
  | markExecuting (invocation : Invocation)
  | markExecutedFail (invocation : Invocation)
  | recoverReserved (invocation : Invocation) (mode : String)
  | finalizeSuccess
      (reservation : Reservation)
      (invocation : Invocation)
      (callbacks : FinalizeCallbacks)
  | finalizeRelease
      (reservation : Option Reservation)
      (invocation : Invocation)
      (allowedStatuses : List InvocationStatus)
  | commit (reservation : Reservation) (taskId : Option Id)
  | release (reservation : Reservation) (taskId : Option Id)
  | reconcileCommit
      (invocation : Invocation)
      (evidence : Evidence)
      (callbacks : FinalizeCallbacks)
  | reconcileRelease (invocation : Invocation) (evidence : Evidence)
  | postReconcile
      (actor : String)
      (mayAct : Id → Bool)
      (invocationId : Id)
      (body : ReconcileIn)
      (draw : FinishDraw)
  | attachStripeCustomer (accountId : Id) (stripeCustomerId : String)
  | applyStripeEvent (customerId status : String)
  | claimOutboxRows (now leaseSeconds : Int) (limit : Nat)
  | casTerminalFromSending
      (now : Int)
      (seen : Outbox)
      (result : StripeResult)
  | requeueDead (now : Int) (outboxId : Option Id)

/-- Run a body for its writes. -/
def silently {α : Type} (body : Body α) : Body (List Entry) :=
  (fun _ => []) <$> body

/-- A caller that catches `PolicyDenied` and lets its transaction commit. -/
def caught (body : Body (List Entry)) : Body (List Entry) :=
  tryCatch body fun
    | .policyDenied _ => pure []
    | exception => throw exception

namespace Txn

/-- The body of a transaction, with the log entries of its outcome. -/
def body (env : Env) (views : Views) : Txn → Body (List Entry)
  | .createPrincipal pubkeyHex accountId newAccountId newId =>
      silently (Crossing.createPrincipal pubkeyHex accountId newAccountId newId)
  | .createAgent principalId parentId newId =>
      silently (Crossing.createAgent views principalId parentId newId)
  | .revokeAgent fuel agentId =>
      (fun _ => [.agentRevoked agentId]) <$>
        Crossing.revokeAgent views fuel agentId
  | .issueMandate now debitNow args newId freshNonce =>
      silently
        (Crossing.issueMandate env views now debitNow args newId freshNonce)
  | .revokeMandate mandateId =>
      silently (Crossing.revokeMandate views mandateId)
  | .reserve now mandate amountCents idempotencyKey nonce taskId recordDeny
      newId =>
      caught
        (silently
          (Crossing.reserve now mandate amountCents idempotencyKey nonce
            taskId recordDeny newId))
  | .reserveAndCommit now mandate amountCents idempotencyKey nonce tool server
      requestHash taskId reservationNewId invocationNewId =>
      caught
        ((fun opened => [.reserved opened.2.1.id]) <$>
          Crossing.reserveAndCommit (views 0) now mandate amountCents
            idempotencyKey nonce tool server requestHash taskId
            reservationNewId invocationNewId)
  | .markExecuting invocation =>
      (fun marked =>
          if marked.won then [.executing invocation.id] else []) <$>
        Crossing.markExecuting invocation
  | .markExecutedFail invocation =>
      silently (Crossing.markExecutedFail invocation)
  | .recoverReserved invocation mode =>
      silently (Crossing.recoverReserved views invocation mode)
  | .finalizeSuccess reservation invocation callbacks =>
      silently
        (Crossing.finalizeSuccess env (views 0).mandates.find reservation
          invocation callbacks)
  | .finalizeRelease reservation invocation allowedStatuses =>
      silently
        (Crossing.finalizeRelease (views 0) reservation invocation
          allowedStatuses)
  | .commit reservation taskId =>
      silently
        (Crossing.commit (views 0).mandates.find reservation taskId)
  | .release reservation taskId =>
      silently (Crossing.release reservation taskId)
  | .reconcileCommit invocation evidence callbacks =>
      (fun event => event.toList.map .reconciled) <$>
        Crossing.reconcileCommit env views (views 1).mandates.find invocation
          evidence callbacks
  | .reconcileRelease invocation evidence =>
      (fun event => event.toList.map .reconciled) <$>
        Crossing.reconcileRelease views invocation evidence
  | .postReconcile actor mayAct invocationId body draw =>
      (fun event => event.toList.map .reconciled) <$>
        Crossing.postReconcile env views actor mayAct invocationId body draw
  | .attachStripeCustomer accountId stripeCustomerId =>
      silently
        (Crossing.attachStripeCustomer (views 0) accountId stripeCustomerId)
  | .applyStripeEvent customerId status =>
      silently (Crossing.applyStripeEvent (views 0) customerId status)
  | .claimOutboxRows now leaseSeconds limit =>
      silently (Crossing.claimOutboxRows (views 0) now leaseSeconds limit)
  | .casTerminalFromSending now seen result =>
      silently (Crossing.casTerminalFromSending now seen result)
  | .requeueDead now outboxId =>
      silently (Crossing.requeueDead (views 0) now outboxId)

end Txn

/-- Where an `invoke` call stands after its reservation is committed. -/
inductive CallState where
  | reserved
  | executing
  | dispatched
  | returned (toolResult : JsonText)
  | raised (error : String)
  | finished (result : InvokeResult)
  deriving Repr, DecidableEq

/-- An `invoke` call, known by the attempt it has reserved. -/
structure InvokeCall where
  attempt : Attempt
  state : CallState
  deriving Repr, DecidableEq

instance : Keyed InvokeCall Id := ⟨fun call => call.attempt.invocation.id⟩

@[simp] theorem key_invokeCall (call : InvokeCall) :
    Keyed.key call = call.attempt.invocation.id := rfl

/-- The database with its earlier committed states, the calls and the log. -/
structure Sys where
  past : List Db
  db : Db
  calls : Table InvokeCall
  log : List Entry

namespace Sys

/-- Before the first transaction. -/
def start : Sys where
  past := []
  db := Db.empty
  calls := .empty
  log := []

/-- The committed states, newest first. -/
def states (s : Sys) : List Db :=
  s.db :: s.past

/-- What the statements of a transaction see, by how old each view is. -/
def views (s : Sys) (ages : List Nat) : Views :=
  fun statement => s.states.getD (ages.getD statement 0) s.db

/-- With nothing else running every statement sees the database as it is. -/
theorem views_nil (s : Sys) : s.views [] = fun _ => s.db :=
  rfl

/-- Commit a transaction. -/
def commit (s : Sys) (db : Db) (entries : List Entry) : Sys :=
  { s with
    past := s.db :: s.past
    db := db
    log := s.log ++ entries }

/-- Advance a call. -/
def advance (s : Sys) (call : InvokeCall) (state : CallState) : Sys :=
  { s with calls := s.calls.put { call with state := state } }

/-- Append to the log. -/
def record (s : Sys) (entries : List Entry) : Sys :=
  { s with log := s.log ++ entries }

/-- A session can hold this row. -/
def Known
    {ρ κ : Type}
    [Keyed ρ κ]
    [DecidableEq κ]
    (s : Sys)
    (table : Db → Table ρ)
    (row : ρ) :
    Prop :=
  ∃ view ∈ s.states, (table view).find (Keyed.key row) = some row

instance
    {ρ κ : Type}
    [Keyed ρ κ]
    [DecidableEq κ]
    [DecidableEq ρ]
    (s : Sys)
    (table : Db → Table ρ)
    (row : ρ) :
    Decidable (s.Known table row) :=
  inferInstanceAs (Decidable (∃ view ∈ s.states, _))

end Sys

/-- The objects that a transaction is called with were loaded before. -/
def Txn.Loaded (s : Sys) : Txn → Prop
  | .reserve _ mandate _ _ _ _ _ _
  | .reserveAndCommit _ mandate _ _ _ _ _ _ _ _ _ =>
      s.Known Db.mandates mandate
  | .markExecuting invocation
  | .markExecutedFail invocation
  | .recoverReserved invocation _
  | .finalizeRelease none invocation _
  | .reconcileCommit invocation _ _
  | .reconcileRelease invocation _ =>
      s.Known Db.invocations invocation
  | .finalizeSuccess reservation invocation _
  | .finalizeRelease (some reservation) invocation _ =>
      s.Known Db.reservations reservation ∧
        s.Known Db.invocations invocation
  | .commit reservation _
  | .release reservation _ =>
      s.Known Db.reservations reservation
  | .casTerminalFromSending _ seen _ =>
      s.Known Db.billingOutbox seen
  | _ => True

instance (s : Sys) (txn : Txn) : Decidable (txn.Loaded s) := by
  unfold Txn.Loaded
  split <;> infer_instance

/-- One move of one process. -/
inductive Action where
  | txn (ages : List Nat) (txn : Txn)
  | invoke (ages : List Nat) (request : InvokeRequest) (draw : InvokeDraw)
  | mark (call : Id)
  | dispatch (call : Id)
  | providerReturns (call : Id) (toolResult : JsonText)
  | providerRaises (call : Id) (error : String)
  | fail (call : Id)
  | finish (call : Id) (draw : FinishDraw)

/-- Later statements of a transaction do not see older states. -/
def Monotone (ages : List Nat) : Prop :=
  ages.Pairwise (· ≥ ·)

instance (ages : List Nat) : Decidable (Monotone ages) :=
  inferInstanceAs (Decidable (ages.Pairwise _))

/-- The state after a move, when the move is possible. -/
def step (env : Env) (s : Sys) : Action → Option Sys
  | .txn ages txn =>
      if Monotone ages ∧ txn.Loaded s then
        (Transaction.commit (txn.body env (s.views ages)) s.db).map
          fun (entries, db) => s.commit db entries
      else
        none
  | .invoke ages request draw =>
      if Monotone ages then
        match
          Transaction.commit (invokeBegin env (s.views ages) request draw)
            s.db
        with
        | some (.answered result, db) =>
            some (s.commit db [.answered request result])
        | some (.reserved attempt, db) =>
            (s.calls.insert? { attempt := attempt, state := .reserved }).map
              fun calls =>
                { s.commit db [.reserved attempt.invocation.id] with
                  calls := calls }
        | none => none
      else
        none
  | .mark id =>
      match s.calls.find id with
      | some ⟨attempt, .reserved⟩ =>
          (Transaction.commit (invokeMark attempt) s.db).map fun
            | (none, db) =>
                (s.commit db [.executing id]).advance
                  ⟨attempt, .reserved⟩ .executing
            | (some result, db) =>
                (s.commit db [.answered attempt.request result]).advance
                  ⟨attempt, .reserved⟩ (.finished result)
      | _ => none
  | .dispatch id =>
      match s.calls.find id with
      | some ⟨attempt, .executing⟩ =>
          some
            ((s.record [.dispatched id]).advance ⟨attempt, .executing⟩
              .dispatched)
      | _ => none
  | .providerReturns id toolResult =>
      match s.calls.find id with
      | some ⟨attempt, .dispatched⟩ =>
          some
            ((s.record [.returned id]).advance ⟨attempt, .dispatched⟩
              (.returned toolResult))
      | _ => none
  | .providerRaises id error =>
      match s.calls.find id with
      | some ⟨attempt, .dispatched⟩ =>
          some (s.advance ⟨attempt, .dispatched⟩ (.raised error))
      | _ => none
  | .fail id =>
      match s.calls.find id with
      | some ⟨attempt, .raised error⟩ =>
          (Transaction.commit (invokeFail attempt error) s.db).map
            fun (result, db) =>
              (s.commit db [.answered attempt.request result]).advance
                ⟨attempt, .raised error⟩ (.finished result)
      | _ => none
  | .finish id draw =>
      match s.calls.find id with
      | some ⟨attempt, .returned toolResult⟩ =>
          (Transaction.commit (invokeFinish env attempt toolResult draw)
            s.db).map
            fun (result, db) =>
              (s.commit db [.answered attempt.request result]).advance
                ⟨attempt, .returned toolResult⟩ (.finished result)
      | _ => none

/-- A step whose action is among the allowed ones. -/
def Step
    (env : Env)
    (allowed : Sys → Action → Prop)
    (s s' : Sys) :
    Prop :=
  ∃ action, allowed s action ∧ step env s action = some s'

/-- The states of all runs made of allowed actions. -/
abbrev Reachable (env : Env) (allowed : Sys → Action → Prop) : Sys → Prop :=
  Transition.Reachable (· = Sys.start) (Step env allowed)

/-- The states that runs made of allowed actions lead to. -/
abbrev Later
    (env : Env)
    (allowed : Sys → Action → Prop) :
    Sys → Sys → Prop :=
  Transition.Later (Step env allowed)

end Crossing

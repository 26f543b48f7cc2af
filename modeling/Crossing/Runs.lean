import Crossing.Steps

namespace Crossing

open Relational

/-!
# Runs as lists of actions

A run is the list of its actions.  Reachability is what some list of actions
leads to, so a run can be computed and its last state is reachable.
-/

/-- Take the actions one after the other. -/
def run (env : Env) (s : Sys) : List Action → Option Sys
  | [] => some s
  | action :: rest => (step env s action).bind (run env · rest)

/-- Every action of the list is allowed where it is taken. -/
def Permitted
    (env : Env)
    (allowed : Sys → Action → Prop)
    (s : Sys) :
    List Action → Prop
  | [] => True
  | action :: rest =>
      allowed s action ∧
        ∀ s' ∈ step env s action, Permitted env allowed s' rest

section Runs

variable {env : Env} {allowed : Sys → Action → Prop}

/-- A run leads to a later state. -/
theorem later_of_run
    {s s' : Sys}
    {actions : List Action}
    (permitted : Permitted env allowed s actions)
    (ran : run env s actions = some s') :
    Later env allowed s s' := by
  induction actions generalizing s with
  | nil =>
      cases ran
      exact .refl
  | cons action rest inductionHypothesis =>
      obtain ⟨isAllowed, after⟩ := permitted
      obtain ⟨middle, taken, ranRest⟩ := Option.bind_eq_some_iff.mp ran
      exact .head ⟨action, isAllowed, taken⟩
        (inductionHypothesis (after middle taken) ranRest)

/-- Every later state is the end of a run. -/
theorem run_of_later
    {s s' : Sys}
    (later : Later env allowed s s') :
    ∃ actions,
      Permitted env allowed s actions ∧ run env s actions = some s' := by
  induction later using Relation.ReflTransGen.head_induction_on with
  | refl =>
      exact ⟨[], trivial, rfl⟩
  | head taken _ inductionHypothesis =>
      obtain ⟨action, isAllowed, taken⟩ := taken
      obtain ⟨actions, permitted, ran⟩ := inductionHypothesis
      refine ⟨action :: actions, ⟨isAllowed, ?_⟩, ?_⟩
      · intro middle isMiddle
        cases taken.symm.trans isMiddle
        exact permitted
      · exact Option.bind_eq_some_iff.mpr ⟨_, taken, ran⟩

/-- The reachable states are the ends of the runs from the start. -/
theorem reachable_iff_run
    {s : Sys} :
    Reachable env allowed s ↔
      ∃ actions,
        Permitted env allowed Sys.start actions ∧
          run env Sys.start actions = some s := by
  constructor
  · rintro ⟨_, rfl, later⟩
    exact run_of_later later
  · rintro ⟨actions, permitted, ran⟩
    exact ⟨_, rfl, later_of_run permitted ran⟩

/-- Actions that are allowed everywhere are permitted in every order. -/
theorem Permitted.of_forall
    {actions : List Action}
    (everywhere : ∀ action ∈ actions, ∀ s, allowed s action)
    (s : Sys) :
    Permitted env allowed s actions := by
  induction actions generalizing s with
  | nil =>
      trivial
  | cons action rest inductionHypothesis =>
      refine ⟨everywhere action List.mem_cons_self s, ?_⟩
      intro s' _
      apply inductionHypothesis
      intro action' member
      exact everywhere action' (List.mem_cons_of_mem _ member)

/-- The transactions that no discipline restricts. -/
def Txn.isRoutine : Txn → Bool
  | .reserve .. | .reserveAndCommit .. | .finalizeSuccess ..
  | .finalizeRelease .. | .commit .. | .release .. | .reconcileCommit .. =>
      false
  | _ => true

/-- The actions that no discipline restricts. -/
def Action.isRoutine : Action → Bool
  | .txn _ body => body.isRoutine
  | _ => true

/-- Routine actions are allowed under every discipline. -/
theorem Discipline.allows_routine
    (discipline : Discipline)
    {action : Action}
    (routine : action.isRoutine = true) :
    discipline.Allows action := by
  cases action with
  | txn ages txn =>
      cases txn <;> first
        | exact ⟨fun _ => trivial, fun _ => trivial, fun _ => trivial,
            fun _ => trivial, fun _ => trivial, fun _ => trivial⟩
        | cases routine
  | _ => trivial

/-- Runs of routine actions are permitted under every discipline. -/
theorem Permitted.routine
    {actions : List Action}
    (routine : actions.all Action.isRoutine = true)
    (discipline : Discipline)
    (s : Sys) :
    Permitted env (fun _ action => discipline.Allows action) s actions := by
  apply Permitted.of_forall
  intro action member _
  exact discipline.allows_routine (List.all_eq_true.mp routine action member)

/-- A check that the end of a run passes holds of a reachable state. -/
theorem reachable_of_check
    {actions : List Action}
    {check : Sys → Bool}
    (permitted : Permitted env allowed Sys.start actions)
    (passes : (run env Sys.start actions).any check = true) :
    ∃ s, Reachable env allowed s ∧ check s = true := by
  obtain ⟨s, ran, holds⟩ := (Option.any_eq_true _ _).mp passes
  exact ⟨s, reachable_iff_run.mpr ⟨actions, permitted, ran⟩, holds⟩

/-- A check of two ends of a run holds of a reachable and a later state. -/
theorem later_of_check
    {first second : List Action}
    {check : Sys → Sys → Bool}
    (firstPermitted : Permitted env allowed Sys.start first)
    (secondPermitted : ∀ s, Permitted env allowed s second)
    (passes :
      (run env Sys.start first).any
          (fun s => (run env s second).any (check s)) =
        true) :
    ∃ s s', Reachable env allowed s ∧ Later env allowed s s' ∧
      check s s' = true := by
  obtain ⟨s, reachable, goesOn⟩ := reachable_of_check firstPermitted passes
  obtain ⟨s', ran, holds⟩ := (Option.any_eq_true _ _).mp goesOn
  exact ⟨s, s', reachable, later_of_run (secondPermitted s) ran, holds⟩

end Runs

/-! ## A small deployment -/

/-- An environment without billing whose signatures are nonces. -/
def Env.plain : Env where
  issuerPubkey := "issuer"
  signObj payload := payload.nonce
  verifyObj payload signature pubkey :=
    signature = payload.nonce && pubkey = "issuer"
  signReceipt body := body.responseHash
  keyId := "kid"
  hashRequest mandateId server tool payload :=
    s!"{mandateId}|{server}|{tool}|{payload}"
  hashTarget mandateId server tool := s!"{mandateId}|{server}|{tool}"
  hashResult result := result
  isoformat _ := "now"
  reconciledResult evidenceRef := evidenceRef
  retainPayloads := true
  stripeConfigured := false
  feeBps := 100
  validateArguments _ _ := .ok ()

/-- The instant at which the small deployment runs. -/
def noon : Datetime where
  wall := 0
  utcoffset := none

/-- One tenant with one agent, which holds a mandate of a hundred cents. -/
def deploy : List Action :=
  [.txn [] (.createPrincipal none none 1 1),
    .txn [] (.createAgent 1 none 1),
    .txn []
      (.issueMandate noon noon
        { principalId := 1, agentId := 1, spendLimitCents := 100 } 1 "n1")]

/-- The small deployment before any call. -/
def Db.deployed : Db :=
  ((run .plain Sys.start deploy).map Sys.db).getD .empty

/-- The call that the agent makes. -/
def call : InvokeRequest where
  mandateId := 1
  tool := "search"
  idempotencyKey := some "key"

/-- A draw at a price of ten cents. -/
def drawTen (newId : Id) : InvokeDraw where
  now := noon
  debitNow := noon
  quoted := .ok 10
  newTaskId := newId
  newReservationId := newId
  newInvocationId := newId

/-- The draw of a finalization. -/
def drawFinish (newId : Id) : FinishDraw where
  newReceiptId := newId
  newOutboxId := newId
  issuedAt := noon
  createdAt := noon

/-- The call from its reservation to its settlement. -/
def settle : List Action :=
  [.invoke [] call (drawTen 1), .mark 1, .dispatch 1,
    .providerReturns 1 "found", .finish 1 (drawFinish 1)]

end Crossing

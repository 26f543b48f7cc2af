import Crossing.ReconcileSpec
import Crossing.Runs

namespace Crossing

open Relational
open Relational.Transaction

/-!
# The trail of reconciliations

An attempt that was reconciled has one row in `reconciliation_events`, and no
other attempt has any.  The row names the status that the attempt has come to;
the status it came from is read off the object in memory, before the
compare-and-set that decides the race.
-/

/-- The statuses that a reconciliation leads to. -/
def reconciledStatuses : List InvocationStatus :=
  [.reconciledCommitted, .reconciledReleased]

/-- No status is accepted again. -/
theorem reconcileFrom_disjoint
    {status : InvocationStatus}
    (fromStatus : status ∈ reconcileFrom) :
    status ∉ reconciledStatuses := by
  revert status
  decide

/-- A move is not one of a reconciliation. -/
theorem Move.unreconciled
    {status toStatus : InvocationStatus}
    (move : Move status toStatus) :
    status ∉ reconciledStatuses ∧ toStatus ∉ reconciledStatuses := by
  cases move with
  | execute => decide
  | fail => decide
  | lose inFlight =>
      revert status
      decide

/-! ## The invariant -/

/-- Events and reconciled attempts belong together one by one. -/
structure Db.Trail (db : Db) : Prop where
  ofEvent :
    ∀ event ∈ db.reconciliationEvents, ∃ row,
      db.invocations.find event.invocationId = some row ∧
        row.status = event.toStatus ∧
        event.toStatus ∈ reconciledStatuses
  ofAttempt :
    ∀ row ∈ db.invocations.rows,
      row.status ∈ reconciledStatuses →
        ∃ event ∈ db.reconciliationEvents, event.invocationId = row.id
  single :
    (db.reconciliationEvents.map ReconciliationEvent.invocationId).Nodup

/-- A won reconciliation, with its event. -/
structure Reconciles
    (db : Db)
    (attempt : Invocation)
    (event : ReconciliationEvent)
    (db' : Db) :
    Prop where
  found : db.invocations.find attempt.id = some attempt
  fromStatus : attempt.status ∈ reconcileFrom
  ofAttempt : event.invocationId = attempt.id
  toStatus : event.toStatus ∈ reconciledStatuses
  moved :
    db'.invocations =
      db.invocations.put { attempt with status := event.toStatus }
  appended :
    db'.reconciliationEvents = db.reconciliationEvents ++ [event]

/--
What a transaction does to attempts and events.  Under `Current` the object in
memory shows the status that the row has.
-/
inductive TrailStep (Current : Prop) (db db' : Db) : Prop where
  | still
      (sameAttempts : db'.invocations = db.invocations)
      (sameEvents : db'.reconciliationEvents = db.reconciliationEvents)
  | opened
      {invocation : Invocation}
      (reserved : invocation.status = .reserved)
      (inserted : db.invocations.insert? invocation = some db'.invocations)
      (sameEvents : db'.reconciliationEvents = db.reconciliationEvents)
  | moved
      {attempt : Invocation}
      {toStatus : InvocationStatus}
      (found : db.invocations.find attempt.id = some attempt)
      (notFrom : attempt.status ∉ reconciledStatuses)
      (notTo : toStatus ∉ reconciledStatuses)
      (moved :
        db'.invocations =
          db.invocations.put { attempt with status := toStatus })
      (sameEvents : db'.reconciliationEvents = db.reconciliationEvents)
  | reconciled
      {attempt : Invocation}
      {event : ReconciliationEvent}
      (reconciles : Reconciles db attempt event db')
      (seen : Current → event.fromStatus = attempt.status)

section Trail

variable
  {Current : Prop}
  {db db' : Db}

/-- An attempt that is not reconciled has no event. -/
theorem Db.Trail.noEvent
    {attempt : Invocation}
    (trail : db.Trail)
    (found : db.invocations.find attempt.id = some attempt)
    (notReconciled : attempt.status ∉ reconciledStatuses) :
    ∀ event ∈ db.reconciliationEvents, event.invocationId ≠ attempt.id := by
  intro event member isAttempt
  obtain ⟨row, isRow, isStatus, inStatuses⟩ := trail.ofEvent event member
  rw [isAttempt, found] at isRow
  cases isRow
  rw [isStatus] at notReconciled
  exact notReconciled inStatuses

/-- A new attempt, or a move between other statuses. -/
theorem Db.Trail.same
    (trail : db.Trail)
    (sameEvents : db'.reconciliationEvents = db.reconciliationEvents)
    (kept :
      ∀ event ∈ db.reconciliationEvents,
        db'.invocations.find event.invocationId =
          db.invocations.find event.invocationId)
    (old :
      ∀ row ∈ db'.invocations.rows,
        row.status ∈ reconciledStatuses → row ∈ db.invocations.rows) :
    db'.Trail where
  ofEvent event member := by
    rw [sameEvents] at member
    rw [kept event member]
    exact trail.ofEvent event member
  ofAttempt row member isReconciled := by
    rw [sameEvents]
    exact trail.ofAttempt row (old row member isReconciled) isReconciled
  single := by
    rw [sameEvents]
    exact trail.single

/-- A reconciliation adds the event of its attempt. -/
theorem Db.Trail.reconcile
    {attempt : Invocation}
    {event : ReconciliationEvent}
    (trail : db.Trail)
    (reconciles : Reconciles db attempt event db') :
    db'.Trail := by
  have found := reconciles.found
  have noEvent :=
    trail.noEvent found (reconcileFrom_disjoint reconciles.fromStatus)
  constructor
  · intro one member
    rw [reconciles.appended] at member
    rw [reconciles.moved]
    rcases List.mem_append.mp member with isOld | isNew
    · rw [Table.find_put_of_ne (Ne.symm (noEvent one isOld))]
      exact trail.ofEvent one isOld
    · obtain rfl := List.mem_singleton.mp isNew
      refine ⟨{ attempt with status := one.toStatus }, ?_, rfl,
        reconciles.toStatus⟩
      rw [reconciles.ofAttempt]
      exact Table.find_put_self found
  · intro row member isReconciled
    rw [reconciles.moved] at member
    rw [reconciles.appended]
    rcases Table.mem_put member with rfl | ⟨inOld, _⟩
    · exact ⟨event, by simp, reconciles.ofAttempt⟩
    · obtain ⟨one, isEvent, isRow⟩ := trail.ofAttempt row inOld isReconciled
      exact ⟨one, List.mem_append_left _ isEvent, isRow⟩
  · rw [reconciles.appended, List.map_append, List.nodup_append]
    refine ⟨trail.single, List.nodup_singleton _, ?_⟩
    intro id isOld other isNew
    obtain ⟨one, isEvent, rfl⟩ := List.mem_map.mp isOld
    rw [List.mem_singleton.mp isNew, reconciles.ofAttempt]
    exact noEvent one isEvent

/-- Every step keeps the trail. -/
theorem Db.Trail.step
    (trail : db.Trail)
    (stepped : TrailStep Current db db') :
    db'.Trail := by
  cases stepped with
  | still sameAttempts sameEvents =>
      apply trail.same sameEvents
      · intro event _
        rw [sameAttempts]
      · intro row member _
        rwa [sameAttempts] at member
  | opened reserved inserted sameEvents =>
      apply trail.same sameEvents
      · intro event member
        obtain ⟨row, found, _⟩ := trail.ofEvent event member
        rw [found]
        exact Table.find_insert_of_some inserted found
      · intro row member isReconciled
        rcases (Table.mem_insert inserted).mp member with inOld | rfl
        · exact inOld
        · rw [reserved] at isReconciled
          simp [reconciledStatuses] at isReconciled
  | @moved attempt toStatus found notFrom notTo moved sameEvents =>
      apply trail.same sameEvents
      · intro event member
        rw [moved]
        exact
          Table.find_put_of_ne
            (Ne.symm (trail.noEvent found notFrom event member))
      · intro row member isReconciled
        rw [moved] at member
        rcases Table.mem_put member with rfl | ⟨inOld, _⟩
        · exact (notTo isReconciled).elim
        · exact inOld
  | reconciled reconciles => exact trail.reconcile reconciles

end Trail

/-! ## What the caller has seen -/

/-- The reservation of an attempt has one of the statuses. -/
def Db.ReservedIn
    (db : Db)
    (invocation : Invocation)
    (statuses : List ReservationStatus) :
    Prop :=
  ∃ reservationId ∈ invocation.reservationId,
    ∃ reservation ∈ db.reservations.find reservationId,
      reservation.status ∈ statuses

instance
    (db : Db)
    (invocation : Invocation)
    (statuses : List ReservationStatus) :
    Decidable (db.ReservedIn invocation statuses) :=
  inferInstanceAs (Decidable (∃ reservationId ∈ _, ∃ reservation ∈ _, _))

/--
Where a reconciliation of the attempt would win, the object in memory shows
the status of its row.
-/
def Db.SeenAsIs
    (db : Db)
    (seen : Invocation)
    (statuses : List ReservationStatus) :
    Prop :=
  db.ReservedIn seen statuses →
    ∀ row ∈ db.invocations.find seen.id,
      row.status ∈ reconcileFrom → seen.status = row.status

instance
    (db : Db)
    (seen : Invocation)
    (statuses : List ReservationStatus) :
    Decidable (db.SeenAsIs seen statuses) :=
  inferInstanceAs (Decidable (_ → ∀ row ∈ _, _))

namespace Txn

/-- The statuses that a transaction gives to `finalize_release`. -/
def releaseFrom : Txn → List InvocationStatus
  | .finalizeRelease _ _ allowedStatuses => allowedStatuses
  | _ => []

/-- `finalize_release` is not called for attempts that are reconciled. -/
def ReleasesOpen (txn : Txn) : Prop :=
  ∀ status ∈ txn.releaseFrom, status ∉ reconciledStatuses

instance (txn : Txn) : Decidable txn.ReleasesOpen :=
  inferInstanceAs (Decidable (∀ _ ∈ _, _))

/--
The attempt that a transaction reconciles, as it is in memory, and the
statuses of its reservation with which it wins.
-/
def reconciling (views : Views) :
    Txn → Option (Invocation × List ReservationStatus)
  | .reconcileCommit seen _ _ => some (seen, [.held, .committed])
  | .reconcileRelease seen _ => some (seen, [.held])
  | .postReconcile _ _ invocationId body _ =>
      ((views 0).invocations.find invocationId).map fun seen =>
        (seen,
          if body.outcome = "committed" then [.held, .committed]
          else [.held])
  | _ => none

/-- A reconciliation is called with an attempt that is as its row is. -/
def SeesStatus (db : Db) (views : Views) (txn : Txn) : Prop :=
  ∀ given ∈ txn.reconciling views, db.SeenAsIs given.1 given.2

instance (db : Db) (views : Views) (txn : Txn) :
    Decidable (txn.SeesStatus db views) :=
  inferInstanceAs (Decidable (∀ _ ∈ _, _))

end Txn

namespace Action

/-- The same for the steps of the system. -/
def ReleasesOpen : Action → Prop
  | .txn _ body => body.ReleasesOpen
  | _ => True

instance (action : Action) : Decidable action.ReleasesOpen :=
  match action with
  | .txn _ body => inferInstanceAs (Decidable body.ReleasesOpen)
  | .invoke .. | .mark _ | .dispatch _ | .providerReturns ..
  | .providerRaises .. | .fail _ | .finish .. =>
      isTrue trivial

/-- The same for the steps of the system. -/
def SeesStatus (s : Sys) : Action → Prop
  | .txn ages body => body.SeesStatus s.db (s.views ages)
  | _ => True

instance (s : Sys) (action : Action) : Decidable (action.SeesStatus s) :=
  match action with
  | .txn ages body =>
      inferInstanceAs (Decidable (body.SeesStatus s.db (s.views ages)))
  | .invoke .. | .mark _ | .dispatch _ | .providerReturns ..
  | .providerRaises .. | .fail _ | .finish .. =>
      isTrue trivial

end Action

/-! ## Transactions -/

section Transactions

variable
  {env : Env}
  {discipline : Discipline}
  {origin : Origin}
  {entries : List Entry}
  {Current : Prop}
  {db db' : Db}

/-- What is reconciled by nobody takes the first three kinds of steps. -/
theorem Effect.trail
    (effect : Effect env discipline origin db entries db')
    (rule : discipline.defaultRelease)
    (noEvidence : ∀ event, .reconciled event ∉ entries) :
    TrailStep Current db db' := by
  cases effect with
  | opened opening => exact .opened opening.reserved opening.inserted rfl
  | moved found move =>
      exact .moved found move.unreconciled.1 move.unreconciled.2 rfl rfl
  | settled settling via =>
      cases via with
      | @finalized fromStatus =>
          refine .moved settling.invocationFound ?_ ?_ rfl (by simp)
          · revert fromStatus
            generalize Invocation.status _ = status
            revert status
            decide
          · decide
      | reconciled => exact (noEvidence _ (List.mem_singleton_self _)).elim
  | resettled => exact (noEvidence _ (List.mem_singleton_self _)).elim
  | released releasing via =>
      cases via with
      | finalized fromStatus =>
          refine .moved releasing.invocationFound ?_ ?_ rfl (by simp)
          · rw [fromStatus rule]
            decide
          · decide
      | reconciled => exact (noEvidence _ (List.mem_singleton_self _)).elim
  | booked => exact .still rfl rfl
  | registered => exact .still rfl rfl
  | agentAdded => exact .still rfl rfl
  | agentsRevoked => exact .still rfl rfl
  | relinked => exact .still rfl rfl
  | drained => exact .still rfl rfl
  | denied => exact .still rfl rfl
  | issuedRoot => exact .still rfl rfl
  | issuedChild => exact .still rfl rfl
  | mandateRevoked => exact .still rfl rfl
  | reservedOnly => exact .still rfl rfl
  | committedOnly => exact .still rfl rfl
  | refundedOnly => exact .still rfl rfl

/-- The savepoint of `reconcile_commit`. -/
theorem reconcileCommitUnit_trail
    {sessionMandate : Id → Option Mandate}
    {view : Db}
    {seen : Invocation}
    {evidence : Evidence}
    {kind : EvidenceKind}
    {callbacks : FinalizeCallbacks}
    {result : Option ReconciliationEvent}
    (returned :
      exec
          (reconcileCommitUnit env sessionMandate
            (seen.reservationId.bind view.reservations.find) seen evidence
            kind callbacks)
          db =
        (.ok result, db')) :
    TrailStep (db.SeenAsIs seen [.held, .committed]) db db' := by
  obtain
    ⟨given, row, attempt, isGiven, rowId, attemptId, fromStatus, _,
      outcome⟩ :=
    reconcileCommitUnit_ok returned
  have link := reservation_of_bind isGiven rowId
  have isTo : InvocationStatus.reconciledCommitted ∈ reconciledStatuses := by
    decide
  have current
      (found : db.invocations.find attempt.id = some attempt)
      (rowFound : db.reservations.find row.id = some row)
      (isOpen : row.status ∈ [ReservationStatus.held, .committed])
      (asIs : db.SeenAsIs seen [.held, .committed]) :
      seen.status = attempt.status :=
    asIs ⟨row.id, link, row, rowFound, isOpen⟩ attempt (attemptId ▸ found)
      fromStatus
  rcases outcome with
    ⟨receipt, receipts, outbox, accounts, claims, settling, rfl⟩ |
    ⟨receipts, outbox, accounts, claims, resettling, rfl⟩
  · have found := settling.invocationFound
    exact .reconciled ⟨found, fromStatus, attemptId.symm, isTo, rfl, rfl⟩
      (current found settling.reservationFound (by simp [settling.held]))
  · have found := resettling.invocationFound
    exact .reconciled ⟨found, fromStatus, attemptId.symm, isTo, rfl, rfl⟩
      (current found resettling.reservationFound
        (by simp [resettling.committed]))

/-- The savepoint of `reconcile_release`. -/
theorem reconcileReleaseUnit_trail
    {view : Db}
    {seen : Invocation}
    {evidence : Evidence}
    {result : Option ReconciliationEvent}
    (returned :
      exec
          (reconcileReleaseUnit
            (seen.reservationId.bind view.reservations.find) seen evidence
            .didNotExecute)
          db =
        (.ok result, db')) :
    TrailStep (db.SeenAsIs seen [.held]) db db' := by
  obtain
    ⟨given, row, attempt, claims, isGiven, releasing, rowId, attemptId,
      fromStatus, _, rfl⟩ :=
    reconcileReleaseUnit_ok returned
  have link := reservation_of_bind isGiven rowId
  have found := releasing.invocationFound
  have isTo : InvocationStatus.reconciledReleased ∈ reconciledStatuses := by
    decide
  refine .reconciled ⟨found, fromStatus, attemptId.symm, isTo, rfl, rfl⟩ ?_
  intro asIs
  have isReserved : db.ReservedIn seen [.held] :=
    ⟨row.id, link, row, releasing.reservationFound, by simp [releasing.held]⟩
  exact asIs isReserved attempt (attemptId ▸ found) fromStatus

/-- Less may be known of what the caller has seen. -/
theorem TrailStep.weaken
    {Sharper : Prop}
    (stepped : TrailStep Current db db')
    (weaker : Sharper → Current) :
    TrailStep Sharper db db' := by
  cases stepped with
  | still sameAttempts sameEvents => exact .still sameAttempts sameEvents
  | opened reserved inserted sameEvents =>
      exact .opened reserved inserted sameEvents
  | moved found notFrom notTo moved sameEvents =>
      exact .moved found notFrom notTo moved sameEvents
  | reconciled reconciles seen =>
      exact .reconciled reconciles fun sharper => seen (weaker sharper)

/-- The rule that `finalize_release` is called with its default statuses. -/
abbrev Discipline.releasesReserved : Discipline :=
  { Discipline.free with defaultRelease := True }

/-- Every transaction takes a step of the trail. -/
theorem txn_trail
    {s : Sys}
    {ages : List Nat}
    {txn : Txn}
    (kept : s.Kept env)
    (loaded : txn.Loaded s)
    (isOpen : txn.ReleasesOpen)
    (returned :
      exec (txn.body env (s.views ages)) s.db = (.ok entries, db')) :
    TrailStep (txn.SeesStatus s.db (s.views ages)) s.db db' := by
  have effect
      (defaults : txn.DefaultRelease)
      (notReconciles : txn.reconciles = false) :
      TrailStep (txn.SeesStatus s.db (s.views ages)) s.db db' := by
    have obeyed : Discipline.releasesReserved.Obeyed txn :=
      ⟨False.elim, False.elim, fun _ => defaults, False.elim, False.elim,
        False.elim⟩
    exact
      (txn_effect kept loaded obeyed returned).trail trivial
        (txn_noEvidence notReconciles returned)
  cases txn with
  | reconcileCommit seen evidence callbacks =>
      obtain ⟨_, run, rfl⟩ := map_ok returned
      rcases reconcileCommit_ok run with ⟨_, rfl⟩ | finished
      · exact .still rfl rfl
      · apply (reconcileCommitUnit_trail finished).weaken
        intro sees
        exact sees (seen, _) rfl
  | reconcileRelease seen evidence =>
      obtain ⟨_, run, rfl⟩ := map_ok returned
      rcases reconcileRelease_ok run with ⟨_, rfl⟩ | finished
      · exact .still rfl rfl
      · apply (reconcileReleaseUnit_trail finished).weaken
        intro sees
        exact sees (seen, _) rfl
  | postReconcile actor mayAct invocationId body draw =>
      obtain ⟨_, run, rfl⟩ := map_ok returned
      rcases postReconcile_ok run with ⟨_, rfl⟩ | ⟨seen, found, posted⟩
      · exact .still rfl rfl
      · cases posted with
        | committed outcome _ finished =>
            apply (reconcileCommitUnit_trail finished).weaken
            intro sees
            apply sees (seen, _)
            simp [Txn.reconciling, found, outcome]
        | released outcome finished =>
            apply (reconcileReleaseUnit_trail finished).weaken
            intro sees
            apply sees (seen, _)
            simp [Txn.reconciling, found, outcome]
  | finalizeRelease reservation invocation allowedStatuses =>
      obtain ⟨_, run, rfl⟩ := map_ok returned
      rcases onFinalizeLost_ok run with ⟨_, rfl⟩ | finished
      · exact .still rfl rfl
      · obtain
          ⟨given, row, attempt, claims, _, releasing, _, _, allowed, rfl⟩ :=
          releaseUnit_ok finished
        exact .moved releasing.invocationFound (isOpen _ allowed) (by decide)
          rfl (by simp)
  | _ => exact effect trivial rfl

end Transactions

/-! ## Every run -/

section Runs

variable
  {env : Env}
  {s s' : Sys}
  {action : Action}

/-- A step commits nothing, or takes a step of the trail. -/
theorem step_trail
    (kept : s.Kept env)
    (isOpen : action.ReleasesOpen)
    (taken : step env s action = some s') :
    s'.states = s.states ∨
      s'.states = s'.db :: s.states ∧
        TrailStep (action.SeesStatus s) s.db s'.db := by
  have ofInvoke
      (notTxn : ∀ ages txn, action ≠ .txn ages txn)
      (allowed : Discipline.releasesReserved.Allows action) :
      s'.states = s.states ∨
        s'.states = s'.db :: s.states ∧
          TrailStep (action.SeesStatus s) s.db s'.db := by
    cases stepped kept allowed taken with
    | txn => exact (notTxn _ _ rfl).elim
    | answered effect =>
        exact .inr ⟨rfl, effect.trail trivial (by simp)⟩
    | began _ effect => exact .inr ⟨rfl, effect.trail trivial (by simp)⟩
    | marked _ found _ reserved =>
        refine .inr ⟨rfl, .moved found ?_ (by decide) rfl rfl⟩
        rw [reserved]
        decide
    | unmarked => exact .inr ⟨rfl, .still rfl rfl⟩
    | dispatched => exact .inl rfl
    | returned => exact .inl rfl
    | raised => exact .inl rfl
    | failed _ _ effect => exact .inr ⟨rfl, effect.trail trivial (by simp)⟩
    | lost => exact .inr ⟨rfl, .still rfl rfl⟩
    | finished _ _ _ _ _ _ effect =>
        exact .inr ⟨rfl, effect.trail trivial (by simp)⟩
  cases action with
  | txn ages txn =>
      simp only [step] at taken
      split at taken
      · rename_i ready
        obtain ⟨⟨entries, db'⟩, committed, rfl⟩ :=
          Option.map_eq_some_iff.mp taken
        exact
          .inr
            ⟨rfl, txn_trail kept ready.2 isOpen (commit_eq_some.mp committed)⟩
      · cases taken
  | _ => exact ofInvoke (by simp) trivial

/-- In every run each reconciled attempt has an event, and no other has. -/
theorem reachable_trail
    {allowed : Sys → Action → Prop}
    (isOpen : ∀ s action, allowed s action → action.ReleasesOpen)
    (reachable : Reachable env allowed s) :
    s.db.Trail := by
  apply Transition.Reachable.invariant _ _ reachable
  · rintro _ rfl
    constructor
    · intro event member
      cases member
    · intro row member
      cases member
    · exact List.nodup_nil
  · rintro s s' isReachable trail ⟨action, isAllowed, taken⟩
    rcases step_trail (reachable_kept isReachable)
      (isOpen s action isAllowed) taken with same | ⟨_, stepped⟩
    · have sameDb : s'.db = s.db := (List.cons.inj same).1
      rw [sameDb]
      exact trail
    · exact trail.step stepped

/-- The events of an attempt. -/
def Db.eventsOf (db : Db) (invocationId : Id) : List ReconciliationEvent :=
  db.reconciliationEvents.filter (·.invocationId = invocationId)

/-- A reconciled attempt has one event, and any other none. -/
theorem Db.Trail.eventsOf
    {db : Db}
    {row : Invocation}
    (trail : db.Trail)
    (member : row ∈ db.invocations.rows) :
    (db.eventsOf row.id).length =
      if row.status ∈ reconciledStatuses then 1 else 0 := by
  have counted :
      (db.eventsOf row.id).length =
        (db.reconciliationEvents.map
          ReconciliationEvent.invocationId).count row.id := by
    rw [List.count, List.countP_map, List.countP_eq_length_filter,
      Db.eventsOf]
    congr 1
  rw [counted, trail.single.count]
  congr 1
  rw [eq_iff_iff]
  constructor
  · intro isListed
    obtain ⟨event, isEvent, isRow⟩ := List.mem_map.mp isListed
    by_contra notReconciled
    exact
      trail.noEvent (Table.find_of_mem member) notReconciled event isEvent
        isRow
  · intro isReconciled
    obtain ⟨event, isEvent, isRow⟩ :=
      trail.ofAttempt row member isReconciled
    exact List.mem_map.mpr ⟨event, isEvent, isRow⟩

/-- The event records a transition that a commit of the run has made. -/
def Sys.Records (s : Sys) (event : ReconciliationEvent) : Prop :=
  (∃ row,
    s.db.invocations.find event.invocationId = some row ∧
      row.status = event.toStatus) ∧
    ∃ older newer attempt,
      [newer, older] <:+: s.states ∧
        Reconciles older attempt event newer ∧
        event.fromStatus = attempt.status

/-- The commits that events record stay in the run. -/
theorem step_records
    (kept : s.Kept env)
    (trail' : s'.db.Trail)
    (isOpen : action.ReleasesOpen)
    (sees : action.SeesStatus s)
    (taken : step env s action = some s')
    (records : ∀ event ∈ s.db.reconciliationEvents, s.Records event) :
    ∀ event ∈ s'.db.reconciliationEvents, s'.Records event := by
  intro event member
  obtain ⟨row, found, isStatus, _⟩ := trail'.ofEvent event member
  refine ⟨⟨row, found, isStatus⟩, ?_⟩
  have before
      (isOld : event ∈ s.db.reconciliationEvents)
      (goesOn : s.states <:+ s'.states) :
      ∃ older newer attempt,
        [newer, older] <:+: s'.states ∧
          Reconciles older attempt event newer ∧
          event.fromStatus = attempt.status := by
    obtain ⟨_, older, newer, attempt, neighbours, rest⟩ :=
      records event isOld
    exact ⟨older, newer, attempt, neighbours.trans goesOn.isInfix, rest⟩
  rcases step_trail kept isOpen taken with same | ⟨more, stepped⟩
  · have sameDb : s'.db = s.db := (List.cons.inj same).1
    rw [sameDb] at member
    exact before member (same ▸ List.suffix_rfl)
  · have goesOn : s.states <:+ s'.states := by
      rw [more]
      exact List.suffix_cons _ _
    cases stepped with
    | still _ sameEvents => exact before (sameEvents ▸ member) goesOn
    | opened _ _ sameEvents => exact before (sameEvents ▸ member) goesOn
    | moved _ _ _ _ sameEvents => exact before (sameEvents ▸ member) goesOn
    | @reconciled attempt new reconciles seen =>
        rw [reconciles.appended] at member
        rcases List.mem_append.mp member with isOld | isNew
        · exact before isOld goesOn
        · obtain rfl := List.mem_singleton.mp isNew
          refine ⟨s.db, s'.db, attempt, ?_, reconciles, seen sees⟩
          rw [more]
          exact List.infix_append [] [s'.db, s.db] s.past

/--
In every run whose reconciliations are called with attempts as they are, every
reconciled attempt has one event and no other attempt has any, and each event
records the transition that the row has made.
-/
theorem reconciliations_recorded
    (reachable :
      Reachable env
        (fun s action => action.ReleasesOpen ∧ action.SeesStatus s) s) :
    (∀ row ∈ s.db.invocations.rows,
      (s.db.eventsOf row.id).length =
        if row.status ∈ reconciledStatuses then 1 else 0) ∧
      ∀ event ∈ s.db.reconciliationEvents, s.Records event := by
  have trail
      {s : Sys}
      (reachable :
        Reachable env
          (fun s action => action.ReleasesOpen ∧ action.SeesStatus s) s) :
      s.db.Trail :=
    reachable_trail (fun _ _ isAllowed => isAllowed.1) reachable
  refine ⟨fun row member => (trail reachable).eventsOf member, ?_⟩
  apply Transition.Reachable.invariant _ _ reachable
  · rintro _ rfl event member
    cases member
  · rintro s s' isReachable records ⟨action, isAllowed, taken⟩
    have trail' := trail (isReachable.next ⟨action, isAllowed, taken⟩)
    exact
      step_records (reachable_kept isReachable) trail' isAllowed.1
        isAllowed.2 taken records

/-- The attempt of a provider that fails, which an operator gives up. -/
def giveUpSeen (ages : List Nat) : List Action :=
  [.invoke [] call (drawTen 1), .mark 1, .dispatch 1,
    .providerRaises 1 "down", .fail 1,
    .txn ages
      (.postReconcile "operator" (fun _ => true) 1
        { outcome := "released"
          evidenceRef := "ticket"
          evidenceKind := "did_not_execute" }
        (drawFinish 1))]

/-- An operator that sees what the row is leaves one true event. -/
theorem reconciliations_recorded_giveUp :
    ∃ s,
      Transition.play (step .plain)
          (fun s action => action.ReleasesOpen ∧ action.SeesStatus s) Sys.start
          (deploy ++ giveUpSeen []) =
        some s ∧
      s.db.reconciliationEvents.length = 1 ∧
      ∀ event ∈ s.db.reconciliationEvents, s.Records event := by
  have runs :
      (Transition.play (step .plain)
          (fun s action => action.ReleasesOpen ∧ action.SeesStatus s) Sys.start
          (deploy ++ giveUpSeen [])).map
          (fun s => s.db.reconciliationEvents.length) =
        some 1 := by
    decide +kernel
  obtain ⟨s, played, length⟩ := Option.map_eq_some_iff.mp runs
  have reachable :
      Reachable .plain
        (fun s action => action.ReleasesOpen ∧ action.SeesStatus s) s :=
    ⟨Sys.start, rfl, Transition.later_of_play played⟩
  exact ⟨s, played, length, (reconciliations_recorded reachable).2⟩

/-- The event of the operator that has loaded the attempt before it failed. -/
def earlyEvent : ReconciliationEvent where
  invocationId := 1
  fromStatus := .executing
  toStatus := .reconciledReleased
  actor := "operator"
  evidenceRef := "ticket"
  evidenceKind := .didNotExecute

/-- The row was `executed_fail`, the event says that it was `executing`. -/
theorem earlyEvent_untrue :
    ∃ s older,
      Reachable .plain (fun _ action => action.ReleasesOpen) s ∧
        s.db.reconciliationEvents = [earlyEvent] ∧
        s.past.head? = some older ∧
        (older.invocations.find 1).map Invocation.status =
          some .executedFail ∧
        ¬s.Records earlyEvent := by
  have runs :
      (Transition.play (step .plain) (fun _ action => action.ReleasesOpen)
          Sys.start (deploy ++ giveUpSeen [1])).map
          (fun s =>
            (s.db.reconciliationEvents,
              s.past.head?.bind fun older =>
                (older.invocations.find 1).map Invocation.status)) =
        some ([earlyEvent], some .executedFail) := by
    decide +kernel
  obtain ⟨s, played, facts⟩ := Option.map_eq_some_iff.mp runs
  obtain ⟨events, before⟩ := Prod.mk.inj facts
  obtain ⟨older, isOlder, status⟩ := Option.bind_eq_some_iff.mp before
  refine
    ⟨s, older, ⟨Sys.start, rfl, Transition.later_of_play played⟩, events,
      isOlder, status, ?_⟩
  rintro ⟨_, _, _, attempt, _, reconciles, isFrom⟩
  have accepted := reconciles.fromStatus
  rw [← isFrom] at accepted
  revert accepted
  decide

end Runs

end Crossing

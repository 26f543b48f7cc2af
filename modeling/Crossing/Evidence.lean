import Crossing.Pairing
import Crossing.DispatchLog

namespace Crossing

open Relational

/-!
# Money moves on evidence

A refund is given only for an attempt that never reaches the provider or on
evidence that nothing was executed, and a receipt only after the provider
returned or on evidence that it did execute.  The argument joins the tables, in
which the money moves, with the log, in which the provider is called.
-/

/-! ## The path of a status -/

/-- The arrows along which the status of an attempt moves. -/
inductive StatusArrow : InvocationStatus → InvocationStatus → Prop where
  | execute : StatusArrow .reserved .executing
  | loseReserved : StatusArrow .reserved .ambiguous
  | release : StatusArrow .reserved .released
  | commit : StatusArrow .executing .committed
  | fail : StatusArrow .executing .executedFail
  | loseExecuting : StatusArrow .executing .ambiguous
  | reconcileCommit
      {status : InvocationStatus}
      (fromStatus : status ∈ [InvocationStatus.executedFail, .ambiguous]) :
      StatusArrow status .reconciledCommitted
  | reconcileRelease
      {status : InvocationStatus}
      (fromStatus : status ∈ [InvocationStatus.executedFail, .ambiguous]) :
      StatusArrow status .reconciledReleased

/-- No arrow leaves `released`. -/
theorem StatusArrow.not_released
    {toStatus : InvocationStatus}
    (arrow : StatusArrow .released toStatus) :
    False := by
  cases arrow with
  | reconcileCommit fromStatus => simp at fromStatus
  | reconcileRelease fromStatus => simp at fromStatus

section Arrows

variable {status toStatus : InvocationStatus}

/-- The statuses that reconciliation accepts, in the other order. -/
theorem mem_reconcileFrom
    (fromStatus : status ∈ reconcileFrom) :
    status ∈ [InvocationStatus.executedFail, .ambiguous] := by
  simpa [reconcileFrom, or_comm] using fromStatus

/-- A move follows an arrow. -/
theorem Move.arrow
    (move : Move status toStatus) :
    StatusArrow status toStatus := by
  cases move with
  | execute => exact .execute
  | fail => exact .fail
  | lose inFlight =>
      simp only [List.mem_cons, List.not_mem_nil, or_false] at inFlight
      rcases inFlight with rfl | rfl
      · exact .loseReserved
      · exact .loseExecuting

/-- A completion follows an arrow. -/
theorem Completes.arrow
    (way : Completes status toStatus) :
    StatusArrow status toStatus := by
  cases way with
  | commit => exact .commit
  | reconcile fromStatus =>
      exact .reconcileCommit (mem_reconcileFrom fromStatus)

/-- A release follows an arrow. -/
theorem Frees.arrow
    (way : Frees status toStatus) :
    StatusArrow status toStatus := by
  cases way with
  | release => exact .release
  | reconcile fromStatus =>
      exact .reconcileRelease (mem_reconcileFrom fromStatus)

end Arrows

namespace AttemptStep

variable {attempts attempts' : Attempts} {id : Id}

/-- A put of a moved attempt moves that attempt and leaves the others. -/
theorem arrow_put
    {invocations : Table Invocation}
    {invocation row : Invocation}
    {toStatus : InvocationStatus}
    (found : invocations.find invocation.id = some invocation)
    (arrow : StatusArrow invocation.status toStatus)
    (rowFound : invocations.find id = some row) :
    ∃ row',
      (invocations.put { invocation with status := toStatus }).find id =
          some row' ∧
        (row.status = row'.status ∨ StatusArrow row.status row'.status) := by
  by_cases isThis : invocation.id = id
  · subst isThis
    cases found.symm.trans rowFound
    exact ⟨_, Table.find_put_self found, .inr arrow⟩
  · exact ⟨row, (Table.find_put_of_ne isThis).trans rowFound, .inl rfl⟩

/-- A step keeps the status of an attempt or moves it along an arrow. -/
theorem arrow
    (step : AttemptStep attempts attempts')
    {row : Invocation}
    (rowFound : attempts.invocations.find id = some row) :
    ∃ row',
      attempts'.invocations.find id = some row' ∧
        (row.status = row'.status ∨ StatusArrow row.status row'.status) := by
  cases step with
  | still => exact ⟨row, rowFound, .inl rfl⟩
  | opened _ inserted =>
      exact ⟨row, Table.find_insert_of_some inserted rowFound, .inl rfl⟩
  | moved found move => exact arrow_put found move.arrow rowFound
  | completed found way => exact arrow_put found way.arrow rowFound
  | freed found way => exact arrow_put found way.arrow rowFound

/-- An attempt appears as reserved. -/
theorem appears
    (step : AttemptStep attempts attempts')
    (missing : attempts.invocations.find id = none)
    {row : Invocation}
    (rowFound : attempts'.invocations.find id = some row) :
    row.status = .reserved := by
  have notByPut
      {invocation : Invocation}
      (found :
        (attempts.invocations.put invocation).find id = some row) :
      False := by
    rw [Table.find_put, missing] at found
    split at found <;> cases found
  cases step with
  | still =>
      rw [missing] at rowFound
      cases rowFound
  | opened reserved inserted =>
      rw [Table.find_insert inserted] at rowFound
      split at rowFound
      · cases rowFound
        exact reserved
      · rw [missing] at rowFound
        cases rowFound
  | moved => exact (notByPut rowFound).elim
  | completed => exact (notByPut rowFound).elim
  | freed => exact (notByPut rowFound).elim

end AttemptStep

/-- The status of an attempt in a state, once the attempt exists. -/
def statusOf (id : Id) (s : Sys) : Option InvocationStatus :=
  (s.db.invocations.find id).map Invocation.status

section Runs

variable
  {env : Env}
  {allowed : Sys → Action → Prop}
  {discipline : Discipline}

/-- The status history of an attempt is a path of the arrows from `reserved`. -/
theorem statusHistory_isPath
    (rule : discipline.defaultRelease)
    (keeps : ∀ s action, allowed s action → discipline.Allows action)
    {states : List Sys}
    (fromStart : states.head? = some Sys.start)
    (isRun : states.IsChain (Step env allowed))
    (id : Id) :
    (Transition.history (statusOf id) states).IsChain StatusArrow ∧
      ∀ status ∈ (Transition.history (statusOf id) states).head?,
        status = .reserved := by
  have reachableRun :
      states.IsChain fun s s' =>
        Reachable env allowed s ∧ Step env allowed s s' := by
    apply Transition.isChain_reachable isRun
    intro s isFirst
    rw [fromStart] at isFirst
    cases isFirst
    exact .start rfl
  constructor
  · refine Transition.history_isChain ?_ reachableRun
    rintro s s' status ⟨reachable, taken⟩ observed
    obtain ⟨row, found, rfl⟩ := Option.map_eq_some_iff.mp observed
    obtain ⟨row', found', related⟩ :=
      (step_attempts rule keeps reachable taken).arrow found
    exact ⟨row'.status, Option.map_eq_some_iff.mpr ⟨row', found', rfl⟩,
      related⟩
  · refine Transition.history_head ?_ reachableRun ?_
    · rintro s s' status ⟨reachable, taken⟩ unobserved observed
      obtain ⟨row, found, rfl⟩ := Option.map_eq_some_iff.mp observed
      exact (step_attempts rule keeps reachable taken).appears
        (Option.map_eq_none_iff.mp unobserved) found
    · intro s isFirst
      rw [fromStart] at isFirst
      cases isFirst
      rfl

/-- A released attempt stays released. -/
theorem released_later
    (rule : discipline.defaultRelease)
    (keeps : ∀ s action, allowed s action → discipline.Allows action)
    {s s' : Sys}
    {id : Id}
    (reachable : Reachable env allowed s)
    (released : statusOf id s = some .released)
    (later : Later env allowed s s') :
    statusOf id s' = some .released := by
  refine Transition.later_invariant
    (fun s => statusOf id s = some .released) ?_ reachable released later
  intro s s' isReachable isReleased taken
  obtain ⟨row, found, status⟩ := Option.map_eq_some_iff.mp isReleased
  obtain ⟨row', found', related⟩ :=
    (step_attempts rule keeps isReachable taken).arrow found
  refine Option.map_eq_some_iff.mpr ⟨row', found', ?_⟩
  rcases related with same | arrow
  · exact same.symm.trans status
  · rw [status] at arrow
    exact arrow.not_released.elim

/-! ## Receipts of settled attempts -/

/-- The provider was called behind the barrier and has returned. -/
structure Served (log : List Entry) (invocation : Id) : Prop where
  behindBarrier :
    Transition.Before (.executing invocation) (.dispatched invocation) log
  returned :
    Transition.Before (.dispatched invocation) (.returned invocation) log

/-- What was served stays served. -/
theorem Served.append
    {log : List Entry}
    {invocation : Id}
    (served : Served log invocation)
    (recent : List Entry) :
    Served (log ++ recent) invocation where
  behindBarrier := served.behindBarrier.append recent
  returned := served.returned.append recent

/-- An attempt is committed by its own call only. -/
theorem Effect.committed
    {origin : Origin}
    {db db' : Db}
    {entries : List Entry}
    {row : Invocation}
    (own : discipline.ownFinalize)
    (effect : Effect env discipline origin db entries db')
    (member : row ∈ db'.invocations.rows)
    (committed : row.status = .committed) :
    row ∈ db.invocations.rows ∨ origin = .finish row.id := by
  cases effect with
  | opened opening =>
      rcases (Table.mem_insert opening.inserted).mp member with inOld | rfl
      · exact .inl inOld
      · rw [opening.reserved] at committed
        cases committed
  | moved found move =>
      rcases mem_moved member with rfl | ⟨inOld, _⟩
      · exact (move.notCommitted committed).elim
      · exact .inl inOld
  | settled settling via =>
      rcases mem_moved member with rfl | ⟨inOld, _⟩
      · cases via with
        | finalized _ _ byCall => exact .inr (byCall own)
        | reconciled => cases committed
      · exact .inl inOld
  | resettled =>
      rcases mem_moved member with rfl | ⟨inOld, _⟩
      · cases committed
      · exact .inl inOld
  | released releasing via =>
      rcases mem_moved member with rfl | ⟨inOld, _⟩
      · cases via with
        | finalized => cases committed
        | reconciled => cases committed
      · exact .inl inOld
  | _ => exact .inl member

variable (discipline) in
/-- Behind every committed attempt there is a call that has returned. -/
theorem reachable_served
    {s : Sys}
    (own : discipline.ownFinalize)
    (keeps : ∀ s action, allowed s action → discipline.Allows action)
    (reachable : Reachable env allowed s) :
    ∀ row ∈ s.db.invocations.rows, row.status = .committed →
      Served s.log row.id := by
  apply reachable_invariant discipline
    (fun s =>
      ∀ row ∈ s.db.invocations.rows, row.status = .committed →
        Served s.log row.id)
    keeps _ _ reachable
  · intro row member
    cases member
  · intro s s' action isReachable served _ stepped row member committed
    obtain ⟨origin, entries, noise, effect, grows, _, byCall⟩ :=
      stepped.logged
    have log := reachable_dispatched isReachable
    rw [grows, List.append_assoc]
    apply Served.append
    rcases effect.committed own member committed with inOld | isCaller
    · exact served row inOld committed
    · obtain ⟨attempt, toolResult, call⟩ := byCall row.id isCaller
      have isCall := Table.mem_of_find call
      rw [← call_id call]
      exact
        { behindBarrier := log.started _ isCall rfl
          returned := log.returned _ isCall rfl }

/-! ## Money moves on evidence -/

/-- The log of the ledger gives the amount of an attempt back. -/
def Db.Refunded (db : Db) (invocation : Invocation) : Prop :=
  ∃ event ∈ db.ledgerEvents,
    event.kind = .release ∧ event.reservationId = invocation.reservationId

/-- There is a receipt of an attempt. -/
def Db.Receipted (db : Db) (invocation : Invocation) : Prop :=
  ∃ receipt ∈ db.receipts.rows,
    receipt.reservationId = invocation.reservationId

/-- A refunded attempt was released. -/
theorem Db.Paired.refunded
    {db : Db}
    {invocation : Invocation}
    (law : db.Paired)
    (audited : db.books.Audited)
    (member : invocation ∈ db.invocations.rows)
    (refunded : db.Refunded invocation) :
    invocation.status = .released ∨
      invocation.status = .reconciledReleased := by
  obtain ⟨event, inLog, isRelease, ofThis⟩ := refunded
  obtain ⟨reservation, holds⟩ := law.attempt invocation member
  obtain ⟨_, _, releases⟩ :=
    audited.counted reservation (Table.mem_of_find holds.found)
  have counted : 0 < eventCount db.ledgerEvents .release reservation.id := by
    unfold eventCount
    rw [List.countP_pos_iff]
    refine ⟨event, inLog, ?_⟩
    rw [ofThis, holds.link, isRelease]
    simp
  have isReleased : reservation.status = .released := by
    by_contra other
    rw [indicator, if_neg other] at releases
    exact counted.ne' releases
  have phase := holds.phase
  rw [isReleased] at phase
  cases status : invocation.status <;> rw [status] at phase <;>
    first
      | exact .inl rfl
      | exact .inr rfl
      | cases phase

/-- An attempt with a receipt was committed. -/
theorem Db.Paired.receipted
    {db : Db}
    {invocation : Invocation}
    (law : db.Paired)
    (member : invocation ∈ db.invocations.rows)
    (receipted : db.Receipted invocation) :
    invocation.status = .committed ∨
      invocation.status = .reconciledCommitted := by
  obtain ⟨receipt, isReceipt, ofThis⟩ := receipted
  obtain ⟨reservation, holds⟩ := law.attempt invocation member
  have committed :=
    law.earned_committed isReceipt holds.found (ofThis.trans holds.link)
  have phase := holds.phase
  rw [committed] at phase
  cases status : invocation.status <;> rw [status] at phase <;>
    first
      | exact .inl rfl
      | exact .inr rfl
      | cases phase

/-- A released attempt never reaches the provider. -/
theorem released_never_dispatched
    (rule : discipline.defaultRelease)
    (keeps : ∀ s action, allowed s action → discipline.Allows action)
    {s s' : Sys}
    {id : Id}
    (reachable : Reachable env allowed s)
    (released : statusOf id s = some .released)
    (later : Later env allowed s s') :
    .dispatched id ∉ s'.log := by
  intro dispatched
  have isReachable := reachable.later later
  have logged := reachable_logged discipline rule keeps isReachable
  have executing := (reachable_dispatched isReachable).barrier id dispatched
  obtain ⟨row, found, status⟩ :=
    Option.map_eq_some_iff.mp
      (released_later rule keeps reachable released later)
  obtain rfl : row.id = id := Table.key_of_find found
  exact (logged.executed row (Table.mem_of_find found) executing).2 status

end Runs

/--
The rules that finalizers get what belongs to the attempt, that releases are
the default ones and that `finalize_success` is left to `invoke`.
-/
def Discipline.evidence : Discipline :=
  { Discipline.free with
    paired := True
    defaultRelease := True
    ownFinalize := True }

/--
A refund is for an attempt that never reaches the provider or on evidence that
nothing was executed, a receipt is for a returned provider call or on evidence
that it was executed, and statuses move along the arrows.
-/
theorem money_moves_on_evidence
    {env : Env}
    {s : Sys}
    (reachable :
      Reachable env (fun _ action => Discipline.evidence.Allows action) s) :
    (∀ invocation ∈ s.db.invocations.rows,
      (s.db.Refunded invocation →
        (∀ s',
          Later env (fun _ action => Discipline.evidence.Allows action) s
              s' →
            .dispatched invocation.id ∉ s'.log) ∨
          ∃ event,
            Evidenced s.log invocation.id .reconciledReleased
              .didNotExecute event) ∧
        (s.db.Receipted invocation →
          Served s.log invocation.id ∨
            ∃ event,
              Evidenced s.log invocation.id .reconciledCommitted
                .didExecute event)) ∧
      ∀ states : List Sys,
        states.head? = some Sys.start →
        states.IsChain
            (Step env fun _ action => Discipline.evidence.Allows action) →
        ∀ id,
          (Transition.history (statusOf id) states).IsChain StatusArrow ∧
            ∀ status ∈ (Transition.history (statusOf id) states).head?,
              status = .reserved := by
  have keeps :
      ∀ (s : Sys) action,
        Discipline.evidence.Allows action →
          Discipline.evidence.Allows action :=
    fun _ _ kept => kept
  have law := reachable_paired .evidence trivial keeps reachable
  have audited := reachable_audited reachable
  have logged := reachable_logged .evidence trivial keeps reachable
  have served := reachable_served .evidence trivial keeps reachable
  refine ⟨?_, ?_⟩
  · intro invocation member
    constructor
    · intro refunded
      rcases law.refunded audited member refunded with
        released | reconciled
      · left
        intro s' later
        apply released_never_dispatched trivial keeps reachable _ later
        exact Option.map_eq_some_iff.mpr
          ⟨invocation, Table.find_of_mem member, released⟩
      · exact .inr (logged.freed invocation member reconciled)
    · intro receipted
      rcases law.receipted member receipted with committed | reconciled
      · exact .inl (served invocation member committed)
      · exact .inr (logged.completed invocation member reconciled)
  · intro states fromStart isRun id
    exact statusHistory_isPath trivial keeps fromStart isRun id

/-- The refund of a call whose provider has failed. -/
theorem money_moves_on_evidence_example :
    ∃ s invocation event,
      Reachable .plain (fun _ action => Discipline.evidence.Allows action)
          s ∧
        s.db.Refunded invocation ∧
        Entry.dispatched invocation.id ∈ s.log ∧
        Evidenced s.log invocation.id .reconciledReleased .didNotExecute
          event := by
  have checked :
      (run .plain Sys.start (deploy ++ giveUp)).any
          (fun s =>
            (s.db.invocations.find 1).any fun invocation =>
              s.db.ledgerEvents.any
                  (fun event =>
                    event.kind = .release ∧
                      event.reservationId = invocation.reservationId) &&
                .dispatched invocation.id ∈ s.log) =
        true := by
    decide
  obtain ⟨s, reachable, passes⟩ :=
    reachable_of_check (.routine (by decide) .evidence _) checked
  obtain ⟨invocation, found, both⟩ := (Option.any_eq_true _ _).mp passes
  obtain ⟨hasEvent, isDispatched⟩ := Bool.and_eq_true_iff.mp both
  obtain ⟨event, inLog, isRelease⟩ := List.any_eq_true.mp hasEvent
  have dispatched := of_decide_eq_true isDispatched
  have refunded : s.db.Refunded invocation :=
    ⟨event, inLog, of_decide_eq_true isRelease⟩
  have member := Table.mem_of_find found
  rcases ((money_moves_on_evidence reachable).1 invocation member).1
      refunded with
    never | ⟨evidence, evidenced⟩
  · exact (never s .refl dispatched).elim
  · exact ⟨s, invocation, evidence, reachable, refunded, dispatched,
      evidenced⟩

end Crossing

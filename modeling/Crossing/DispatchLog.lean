import Crossing.Attempts

namespace Crossing

open Relational

/-!
# The order of dispatches and commits

The provider call is outside the database, so what relates it to the tables is
the log of the run.  `Dispatched` is the law of calls and log, and `Logged` the
law of attempts and log; both only grow.
-/

/-- Log entries that say nothing about the status of an attempt. -/
def Entry.isNoise : Entry → Bool
  | .dispatched _ | .returned _ | .answered _ _ | .agentRevoked _ => true
  | .reserved _ | .executing _ | .reconciled _ => false

/-! ## Calls and log -/

namespace CallState

/-- The provider has not been called yet, and may still be. -/
def isPending : CallState → Bool
  | .reserved | .executing => true
  | _ => false

/-- The dispatch barrier has been passed. -/
def isUnderway : CallState → Bool
  | .executing | .dispatched | .returned _ | .raised _ => true
  | _ => false

/-- The provider has been called. -/
def isStarted : CallState → Bool
  | .dispatched | .returned _ | .raised _ => true
  | _ => false

/-- The provider has returned. -/
def isReturned : CallState → Bool
  | .returned _ => true
  | _ => false

end CallState

/-- What the log tells of every call. -/
structure Dispatched (calls : Table InvokeCall) (log : List Entry) : Prop where
  once : ∀ id, log.count (.dispatched id) ≤ 1
  notYet :
    ∀ id,
      (∀ call, calls.find id = some call → call.state.isPending = true) →
        log.count (.dispatched id) = 0
  passed :
    ∀ call ∈ calls.rows, call.state.isUnderway = true →
      .executing call.attempt.invocation.id ∈ log
  started :
    ∀ call ∈ calls.rows, call.state.isStarted = true →
      Transition.Before
        (.executing call.attempt.invocation.id)
        (.dispatched call.attempt.invocation.id) log
  returned :
    ∀ call ∈ calls.rows, call.state.isReturned = true →
      Transition.Before
        (.dispatched call.attempt.invocation.id)
        (.returned call.attempt.invocation.id) log
  barrier : ∀ id, .dispatched id ∈ log → .executing id ∈ log

namespace Dispatched

variable {calls : Table InvokeCall} {log : List Entry}

/-- Entries that dispatch nothing may be appended. -/
theorem noted
    (law : Dispatched calls log)
    {recent : List Entry}
    (quiet : ∀ id, .dispatched id ∉ recent) :
    Dispatched calls (log ++ recent) := by
  have sameCount (id : Id) :
      (log ++ recent).count (.dispatched id) = log.count (.dispatched id) := by
    rw [List.count_append, List.count_eq_zero_of_not_mem (quiet id), add_zero]
  exact
    { once := fun id => sameCount id ▸ law.once id
      notYet := fun id pending => (sameCount id).trans (law.notYet id pending)
      passed := fun call member underway =>
        List.mem_append_left _ (law.passed call member underway)
      started := fun call member started =>
        (law.started call member started).append recent
      returned := fun call member returned =>
        (law.returned call member returned).append recent
      barrier := by
        intro id member
        rcases List.mem_append.mp member with inOld | isRecent
        · exact List.mem_append_left _ (law.barrier id inOld)
        · exact (quiet id isRecent).elim }

/-- A call that has just reserved its attempt has not called the provider. -/
theorem began
    (law : Dispatched calls log)
    {attempt : Attempt}
    {calls' : Table InvokeCall}
    (inserted : calls.insert? ⟨attempt, .reserved⟩ = some calls') :
    Dispatched calls' log := by
  have isCall {call : InvokeCall} (member : call ∈ calls'.rows) :
      call ∈ calls.rows ∨ call = ⟨attempt, .reserved⟩ :=
    (Table.mem_insert inserted).mp member
  refine
    { once := law.once
      notYet := ?_
      passed := ?_
      started := ?_
      returned := ?_
      barrier := law.barrier }
  · intro id pending
    apply law.notYet id
    intro call found
    exact pending call (Table.find_insert_of_some inserted found)
  · intro call member underway
    rcases isCall member with inOld | rfl
    · exact law.passed call inOld underway
    · cases underway
  · intro call member started
    rcases isCall member with inOld | rfl
    · exact law.started call inOld started
    · cases started
  · intro call member returned
    rcases isCall member with inOld | rfl
    · exact law.returned call inOld returned
    · cases returned

/-- A call that advances tells the log what it has done. -/
theorem advanced
    (law : Dispatched calls log)
    {attempt : Attempt}
    {before after : CallState}
    {recent : List Entry}
    (found : calls.find attempt.invocation.id = some ⟨attempt, before⟩)
    (wasPending : after.isPending = true → before.isPending = true)
    (dispatches :
      ∀ id, .dispatched id ∈ recent →
        id = attempt.invocation.id ∧
          before = .executing ∧
            after.isPending = false ∧
              recent = [.dispatched id])
    (passed :
      after.isUnderway = true →
        .executing attempt.invocation.id ∈ log ++ recent)
    (started :
      after.isStarted = true →
        Transition.Before (.executing attempt.invocation.id)
          (.dispatched attempt.invocation.id) (log ++ recent))
    (returned :
      after.isReturned = true →
        Transition.Before (.dispatched attempt.invocation.id)
          (.returned attempt.invocation.id) (log ++ recent)) :
    Dispatched (calls.put ⟨attempt, after⟩) (log ++ recent) := by
  have member := Table.mem_of_find found
  have newFound :
      (calls.put ⟨attempt, after⟩).find attempt.invocation.id =
        some ⟨attempt, after⟩ :=
    Table.find_put_self found
  -- What a dispatch adds to the count, and that nothing was counted before.
  have counted (id : Id) :
      (log ++ recent).count (.dispatched id) = log.count (.dispatched id) ∨
        (log ++ recent).count (.dispatched id) = 1 ∧
          id = attempt.invocation.id ∧ after.isPending = false := by
    rw [List.count_append]
    by_cases isRecent : .dispatched id ∈ recent
    · obtain ⟨rfl, rfl, notPending, rfl⟩ := dispatches id isRecent
      have none_ :
          log.count (.dispatched attempt.invocation.id) = 0 := by
        apply law.notYet
        intro call isCall
        cases found.symm.trans isCall
        rfl
      exact .inr ⟨by simp [none_], rfl, notPending⟩
    · left
      rw [List.count_eq_zero_of_not_mem isRecent, add_zero]
  refine
    { once := ?_
      notYet := ?_
      passed := ?_
      started := ?_
      returned := ?_
      barrier := ?_ }
  · intro id
    rcases counted id with same | ⟨one, _⟩
    · exact same ▸ law.once id
    · omega
  · intro id pending
    rcases counted id with same | ⟨_, rfl, notPending⟩
    · rw [same]
      apply law.notYet
      intro call isCall
      by_cases isThis : attempt.invocation.id = id
      · subst isThis
        cases found.symm.trans isCall
        exact wasPending (pending _ newFound)
      · exact pending call ((Table.find_put_of_ne isThis).trans isCall)
    · have isPending := pending _ newFound
      rw [notPending] at isPending
      cases isPending
  · intro call inNew underway
    rcases Table.mem_put inNew with rfl | ⟨inOld, _⟩
    · exact passed underway
    · exact List.mem_append_left _ (law.passed call inOld underway)
  · intro call inNew isStarted
    rcases Table.mem_put inNew with rfl | ⟨inOld, _⟩
    · exact started isStarted
    · exact (law.started call inOld isStarted).append recent
  · intro call inNew isReturned
    rcases Table.mem_put inNew with rfl | ⟨inOld, _⟩
    · exact returned isReturned
    · exact (law.returned call inOld isReturned).append recent
  · intro id inNew
    rcases List.mem_append.mp inNew with inOld | isRecent
    · exact List.mem_append_left _ (law.barrier id inOld)
    · obtain ⟨rfl, rfl, _, _⟩ := dispatches id isRecent
      exact List.mem_append_left _ (law.passed _ member rfl)

/-- Without calls nothing is dispatched. -/
theorem empty : Dispatched Sys.start.calls Sys.start.log where
  once := fun _ => Nat.zero_le 1
  notYet := fun _ _ => rfl
  passed := by
    intro call member
    cases member
  started := by
    intro call member
    cases member
  returned := by
    intro call member
    cases member
  barrier := by
    intro id member
    cases member

end Dispatched

/-- Transactions dispatch nothing. -/
theorem Effect.quiet
    {env : Env}
    {discipline : Discipline}
    {origin : Origin}
    {db db' : Db}
    {entries : List Entry}
    (effect : Effect env discipline origin db entries db')
    (id : Id) :
    .dispatched id ∉ entries := by
  cases effect with
  | @moved _ toStatus => cases toStatus <;> simp [moveEntries]
  | _ => simp

/-- Every step keeps the law of calls and log. -/
theorem Dispatched.step
    {env : Env}
    {discipline : Discipline}
    {s s' : Sys}
    {action : Action}
    (law : Dispatched s.calls s.log)
    (stepped : Stepped env discipline s action s') :
    Dispatched s'.calls s'.log := by
  cases stepped with
  | txn _ effect => exact law.noted effect.quiet
  | answered => exact law.noted (by simp)
  | began _ effect _ inserted _ =>
      exact (law.noted effect.quiet).began inserted
  | marked call =>
      refine law.advanced call (fun _ => rfl) (by simp) ?_ ?_ ?_
      · intro _
        exact List.mem_append_right _ (by simp)
      · intro started
        cases started
      · intro returned
        cases returned
  | unmarked call =>
      refine law.advanced call ?_ (by simp) ?_ ?_ ?_ <;>
        intro impossible <;> cases impossible
  | @dispatched attempt call =>
      have member := Table.mem_of_find call
      refine law.advanced call ?_ ?_ ?_ ?_ ?_
      · intro impossible
        cases impossible
      · intro id isRecent
        cases List.mem_singleton.mp isRecent
        exact ⟨rfl, rfl, rfl, rfl⟩
      · intro _
        exact List.mem_append_left _ (law.passed _ member rfl)
      · intro _
        exact .old_new (law.passed _ member rfl) (by simp)
      · intro returned
        cases returned
  | @returned attempt toolResult call =>
      have member := Table.mem_of_find call
      have started := law.started _ member rfl
      refine law.advanced call ?_ (by simp) ?_ ?_ ?_
      · intro impossible
        cases impossible
      · intro _
        exact List.mem_append_left _ (law.passed _ member rfl)
      · intro _
        exact started.append _
      · intro _
        exact .old_new started.second_mem (by simp)
  | @raised attempt error call =>
      have member := Table.mem_of_find call
      have advanced :
          Dispatched (s.calls.put ⟨attempt, .raised error⟩)
            (s.log ++ []) := by
        refine law.advanced call ?_ (by simp) ?_ ?_ ?_
        · intro impossible
          cases impossible
        · intro _
          exact List.mem_append_left _ (law.passed _ member rfl)
        · intro _
          exact (law.started _ member rfl).append _
        · intro impossible
          cases impossible
      rw [List.append_nil] at advanced
      exact advanced
  | failed call =>
      refine law.advanced call ?_ (by simp) ?_ ?_ ?_ <;>
        intro impossible <;> cases impossible
  | lost call =>
      refine law.advanced call ?_ (by simp) ?_ ?_ ?_ <;>
        intro impossible <;> cases impossible
  | finished call =>
      refine law.advanced call ?_ (by simp) ?_ ?_ ?_ <;>
        intro impossible <;> cases impossible

/-- In every reachable state the log tells what the calls have done. -/
theorem reachable_dispatched
    {env : Env}
    {allowed : Sys → Action → Prop}
    {s : Sys}
    (reachable : Reachable env allowed s) :
    Dispatched s.calls s.log := by
  apply reachable_invariant .free (fun s => Dispatched s.calls s.log) _
    .empty _ reachable
  · intro s action _
    exact Discipline.free_allows action
  · intro s s' action _ law _ stepped
    exact law.step stepped

/-! ## Attempts and log -/

/-- The evidence on which an attempt was reconciled. -/
structure Evidenced
    (log : List Entry)
    (invocation : Id)
    (toStatus : InvocationStatus)
    (kind : EvidenceKind)
    (event : ReconciliationEvent) :
    Prop where
  logged : .reconciled event ∈ log
  ofAttempt : event.invocationId = invocation
  toStatus : event.toStatus = toStatus
  kind : event.evidenceKind = kind

/-- Evidence stays in the log. -/
theorem Evidenced.append
    {log : List Entry}
    {invocation : Id}
    {toStatus : InvocationStatus}
    {kind : EvidenceKind}
    {event : ReconciliationEvent}
    (evidenced : Evidenced log invocation toStatus kind event)
    (recent : List Entry) :
    Evidenced (log ++ recent) invocation toStatus kind event :=
  { evidenced with logged := List.mem_append_left _ evidenced.logged }

/--
The attempt was given up before another one was reserved: it was never
executing, or there was evidence by then that nothing had been executed.
-/
def GivenUpBefore
    (log : List Entry)
    (first : Invocation)
    (second : Id) :
    Prop :=
  first.status = .released ∨
    first.status = .reconciledReleased ∧
      ∃ event,
        Evidenced log first.id .reconciledReleased .didNotExecute event ∧
          Transition.Before (.reconciled event) (.reserved second) log

/-- What the log tells of every attempt. -/
structure Logged
    (invocations : Table Invocation)
    (log : List Entry) :
    Prop where
  reserved : ∀ row ∈ invocations.rows, .reserved row.id ∈ log
  reservedKnown :
    ∀ id, .reserved id ∈ log → ∃ row, invocations.find id = some row
  executingKnown :
    ∀ id, .executing id ∈ log → ∃ row, invocations.find id = some row
  executed :
    ∀ row ∈ invocations.rows, .executing row.id ∈ log →
      row.status ≠ .reserved ∧ row.status ≠ .released
  completed :
    ∀ row ∈ invocations.rows, row.status = .reconciledCommitted →
      ∃ event, Evidenced log row.id .reconciledCommitted .didExecute event
  freed :
    ∀ row ∈ invocations.rows, row.status = .reconciledReleased →
      ∃ event,
        Evidenced log row.id .reconciledReleased .didNotExecute event
  order :
    ∀ first ∈ invocations.rows, ∀ second ∈ invocations.rows,
      first.id ≠ second.id →
        ∀ at_, first.operation = some at_ → second.operation = some at_ →
          Transition.Before (.reserved first.id) (.reserved second.id) log →
            GivenUpBefore log first second.id

/-- What was given up stays given up. -/
theorem GivenUpBefore.append
    {log : List Entry}
    {first : Invocation}
    {second : Id}
    (given : GivenUpBefore log first second)
    (recent : List Entry) :
    GivenUpBefore (log ++ recent) first second := by
  rcases given with released | ⟨reconciled, event, evidenced, before⟩
  · exact .inl released
  · exact .inr ⟨reconciled, event, evidenced.append recent,
      before.append recent⟩

namespace Logged

variable {invocations : Table Invocation} {log recent : List Entry}

/-- Noise may be appended. -/
theorem noted
    (law : Logged invocations log)
    (noise : ∀ entry ∈ recent, entry.isNoise = true) :
    Logged invocations (log ++ recent) := by
  have fromOld {entry : Entry} (member : entry ∈ log ++ recent)
      (loud : entry.isNoise = false) :
      entry ∈ log := by
    rcases List.mem_append.mp member with inOld | isRecent
    · exact inOld
    · rw [noise entry isRecent] at loud
      cases loud
  refine
    { reserved := ?_
      reservedKnown := ?_
      executingKnown := ?_
      executed := ?_
      completed := ?_
      freed := ?_
      order := ?_ }
  · intro row member
    exact List.mem_append_left _ (law.reserved row member)
  · intro id member
    exact law.reservedKnown id (fromOld member rfl)
  · intro id member
    exact law.executingKnown id (fromOld member rfl)
  · intro row member executing
    exact law.executed row member (fromOld executing rfl)
  · intro row member status
    obtain ⟨event, evidenced⟩ := law.completed row member status
    exact ⟨event, evidenced.append recent⟩
  · intro row member status
    obtain ⟨event, evidenced⟩ := law.freed row member status
    exact ⟨event, evidenced.append recent⟩
  · intro first member second member' different at_ operation operation'
      before
    rcases Transition.Before.append_iff.mp before with
      inOld | ⟨_, isRecent⟩ | inRecent
    · exact (law.order first member second member' different at_ operation
        operation' inOld).append recent
    · have loud := noise _ isRecent
      cases loud
    · have loud := noise _ inRecent.second_mem
      cases loud

/--
A new attempt is logged as reserved.  The attempts before it at its operation
are not live, since it found no claim.
-/
theorem opened
    (law : Logged invocations log)
    {invocation : Invocation}
    {invocations' : Table Invocation}
    (reserved : invocation.status = .reserved)
    (inserted : invocations.insert? invocation = some invocations')
    (alone :
      ∀ row ∈ invocations.rows, ∀ at_,
        row.operation = some at_ → invocation.operation = some at_ →
          row.status.isLive = false) :
    Logged invocations' (log ++ [.reserved invocation.id]) := by
  have fresh : invocations.find invocation.id = none :=
    (Table.insert?_eq_some inserted).1
  have isRow {row : Invocation} (member : row ∈ invocations'.rows) :
      row ∈ invocations.rows ∨ row = invocation :=
    (Table.mem_insert inserted).mp member
  have notFresh {row : Invocation} (inOld : row ∈ invocations.rows) :
      row.id ≠ invocation.id := by
    intro same
    have found : invocations.find row.id = some row :=
      Table.find_of_mem inOld
    rw [same, fresh] at found
    cases found
  have fromOld {entry : Entry}
      (member : entry ∈ log ++ [.reserved invocation.id])
      (different : entry ≠ .reserved invocation.id) :
      entry ∈ log := by
    rcases List.mem_append.mp member with inOld | isNew
    · exact inOld
    · exact (different (List.mem_singleton.mp isNew)).elim
  have unlogged : .executing invocation.id ∉ log := by
    intro member
    obtain ⟨row, found⟩ := law.executingKnown _ member
    rw [fresh] at found
    cases found
  have unreserved : .reserved invocation.id ∉ log := by
    intro member
    obtain ⟨row, found⟩ := law.reservedKnown _ member
    rw [fresh] at found
    cases found
  refine
    { reserved := ?_
      reservedKnown := ?_
      executingKnown := ?_
      executed := ?_
      completed := ?_
      freed := ?_
      order := ?_ }
  · intro row member
    rcases isRow member with inOld | rfl
    · exact List.mem_append_left _ (law.reserved row inOld)
    · exact List.mem_append_right _ (by simp)
  · intro id member
    by_cases isNew : id = invocation.id
    · subst isNew
      exact ⟨invocation, Table.find_of_mem
        ((Table.mem_insert inserted).mpr (.inr rfl))⟩
    · obtain ⟨row, found⟩ :=
        law.reservedKnown id (fromOld member (by simp [isNew]))
      exact ⟨row, Table.find_insert_of_some inserted found⟩
  · intro id member
    obtain ⟨row, found⟩ := law.executingKnown id (fromOld member (by simp))
    exact ⟨row, Table.find_insert_of_some inserted found⟩
  · intro row member executing
    have inLog := fromOld executing (by simp)
    rcases isRow member with inOld | rfl
    · exact law.executed row inOld inLog
    · exact (unlogged inLog).elim
  · intro row member status
    rcases isRow member with inOld | rfl
    · obtain ⟨event, evidenced⟩ := law.completed row inOld status
      exact ⟨event, evidenced.append _⟩
    · rw [reserved] at status
      cases status
  · intro row member status
    rcases isRow member with inOld | rfl
    · obtain ⟨event, evidenced⟩ := law.freed row inOld status
      exact ⟨event, evidenced.append _⟩
    · rw [reserved] at status
      cases status
  · intro first member second member' different at_ operation operation'
      before
    rcases isRow member' with inOld' | rfl
    · -- The second attempt is older, so both entries are.
      have bothOld :
          Transition.Before (.reserved first.id) (.reserved second.id)
            log := by
        rcases Transition.Before.append_iff.mp before with
          inOld | ⟨_, isNew⟩ | inNew
        · exact inOld
        · simp [notFresh inOld'] at isNew
        · have isNew := inNew.second_mem
          simp [notFresh inOld'] at isNew
      rcases isRow member with inOld | rfl
      · exact (law.order first inOld second inOld' different at_ operation
          operation' bothOld).append _
      · exact (unreserved bothOld.first_mem).elim
    · rcases isRow member with inOld | rfl
      · have dead := alone first inOld at_ operation operation'
        cases status : first.status <;> rw [status] at dead <;>
          try cases dead
        · exact .inl status
        · obtain ⟨event, evidenced⟩ := law.freed first inOld status
          exact .inr ⟨status, event, evidenced.append _,
            .old_new evidenced.logged (by simp)⟩
      · exact (different rfl).elim

/--
An open attempt moves.  The entries of the move are its own, and no attempt at
its operation was reserved after it.
-/
theorem moved
    (law : Logged invocations log)
    {invocation : Invocation}
    {toStatus : InvocationStatus}
    (found : invocations.find invocation.id = some invocation)
    (live : invocation.status.isLive = true)
    (unreserving : ∀ id, .reserved id ∉ recent)
    (ownExecuting : ∀ id, .executing id ∈ recent → id = invocation.id)
    (notReserved : toStatus ≠ .reserved)
    (released :
      toStatus = .released → .executing invocation.id ∉ log ++ recent)
    (completes :
      toStatus = .reconciledCommitted →
        ∃ event,
          Evidenced recent invocation.id .reconciledCommitted .didExecute
            event)
    (frees :
      toStatus = .reconciledReleased →
        ∃ event,
          Evidenced recent invocation.id .reconciledReleased
            .didNotExecute event) :
    Logged (invocations.put { invocation with status := toStatus })
      (log ++ recent) := by
  have member := Table.mem_of_find found
  have stays {id : Id} (known : ∃ row, invocations.find id = some row) :
      ∃ row,
        (invocations.put { invocation with status := toStatus }).find id =
          some row := by
    obtain ⟨row, rowFound⟩ := known
    obtain ⟨row', rowFound', _⟩ :=
      moved_extends found toStatus id row rowFound
    exact ⟨row', rowFound'⟩
  refine
    { reserved := ?_
      reservedKnown := ?_
      executingKnown := ?_
      executed := ?_
      completed := ?_
      freed := ?_
      order := ?_ }
  · intro row inNew
    rcases mem_moved inNew with rfl | ⟨inOld, _⟩
    · exact List.mem_append_left _ (law.reserved invocation member)
    · exact List.mem_append_left _ (law.reserved row inOld)
  · intro id inLog
    rcases List.mem_append.mp inLog with inOld | isRecent
    · exact stays (law.reservedKnown id inOld)
    · exact (unreserving id isRecent).elim
  · intro id inLog
    rcases List.mem_append.mp inLog with inOld | isRecent
    · exact stays (law.executingKnown id inOld)
    · rw [ownExecuting id isRecent]
      exact stays ⟨invocation, found⟩
  · intro row inNew executing
    rcases mem_moved inNew with rfl | ⟨inOld, different⟩
    · exact ⟨notReserved, fun isReleased => released isReleased executing⟩
    · rcases List.mem_append.mp executing with inLog | isRecent
      · exact law.executed row inOld inLog
      · exact (different (ownExecuting row.id isRecent)).elim
  · intro row inNew status
    rcases mem_moved inNew with rfl | ⟨inOld, _⟩
    · obtain ⟨event, evidenced⟩ := completes status
      exact ⟨event, { evidenced with
        logged := List.mem_append_right _ evidenced.logged }⟩
    · obtain ⟨event, evidenced⟩ := law.completed row inOld status
      exact ⟨event, evidenced.append recent⟩
  · intro row inNew status
    rcases mem_moved inNew with rfl | ⟨inOld, _⟩
    · obtain ⟨event, evidenced⟩ := frees status
      exact ⟨event, { evidenced with
        logged := List.mem_append_right _ evidenced.logged }⟩
    · obtain ⟨event, evidenced⟩ := law.freed row inOld status
      exact ⟨event, evidenced.append recent⟩
  · intro first inNew second inNew' different at_ operation operation' before
    have bothOld :
        Transition.Before (.reserved first.id) (.reserved second.id) log := by
      rcases Transition.Before.append_iff.mp before with
        inOld | ⟨_, isRecent⟩ | inRecent
      · exact inOld
      · exact (unreserving _ isRecent).elim
      · exact (unreserving _ inRecent.second_mem).elim
    -- The second attempt as it was before the move.
    obtain ⟨second', inOld', sameId, sameOperation⟩ :
        ∃ second' ∈ invocations.rows,
          second'.id = second.id ∧
            second'.operation = second.operation := by
      rcases mem_moved inNew' with rfl | ⟨inOld', _⟩
      · exact ⟨invocation, member, rfl, rfl⟩
      · exact ⟨second, inOld', rfl, rfl⟩
    rw [← sameId] at different bothOld ⊢
    rw [← sameOperation] at operation'
    rcases mem_moved inNew with rfl | ⟨inOld, _⟩
    · have given :=
        law.order invocation member second' inOld' different at_ operation
          operation' bothOld
      rcases given with isReleased | ⟨isReconciled, _⟩
      · rw [isReleased] at live
        cases live
      · rw [isReconciled] at live
        cases live
    · exact (law.order first inOld second' inOld' different at_ operation
        operation' bothOld).append recent

/-- Reconciliation on evidence is logged with its event. -/
theorem reconciled
    (law : Logged invocations log)
    {invocation : Invocation}
    {toStatus : InvocationStatus}
    {event : ReconciliationEvent}
    (found : invocations.find invocation.id = some invocation)
    (fromStatus : invocation.status ∈ reconcileFrom)
    (ofAttempt : event.invocationId = invocation.id)
    (sameStatus : event.toStatus = toStatus)
    (isEnd :
      toStatus = .reconciledCommitted ∧ event.evidenceKind = .didExecute ∨
        toStatus = .reconciledReleased ∧
          event.evidenceKind = .didNotExecute) :
    Logged (invocations.put { invocation with status := toStatus })
      (log ++ [.reconciled event]) := by
  have live := (live_of_reconcileFrom fromStatus).1
  have logged : .reconciled event ∈ [Entry.reconciled event] := by simp
  rcases isEnd with ⟨rfl, kind⟩ | ⟨rfl, kind⟩
  · refine law.moved found live (by simp) (by simp) (by decide) ?_ ?_ ?_
    · intro impossible
      cases impossible
    · intro _
      exact ⟨event, logged, ofAttempt, sameStatus, kind⟩
    · intro impossible
      cases impossible
  · refine law.moved found live (by simp) (by simp) (by decide) ?_ ?_ ?_
    · intro impossible
      cases impossible
    · intro impossible
      cases impossible
    · intro _
      exact ⟨event, logged, ofAttempt, sameStatus, kind⟩

/-- Every effect keeps the law of attempts and log. -/
theorem effect
    {env : Env}
    {discipline : Discipline}
    {origin : Origin}
    {db db' : Db}
    {entries : List Entry}
    (law : Logged db.invocations log)
    (attempts : db.attempts.Law)
    (rule : discipline.defaultRelease)
    (effect : Effect env discipline origin db entries db') :
    Logged db'.invocations (log ++ entries) := by
  cases effect with
  | @opened old reservation invocation reservations invocations claims
      opening =>
      refine law.opened opening.reserved opening.inserted ?_
      intro row member at_ operation same
      by_contra notDead
      have live : row.status.isLive = true := by simpa using notDead
      obtain ⟨claim, found⟩ := attempts.claimed row member live at_ operation
      have unclaimed := opening.unclaimed at_ same
      have isClaim : db.idempotencyRecords.find at_ = some claim := found
      rw [unclaimed] at isClaim
      cases isClaim
  | @moved invocation toStatus found move =>
      obtain ⟨live, stillLive, _, _, _⟩ := move.inProgress
      obtain ⟨notReserved, notReleased, notCommitted, notFreed⟩ := move.notEnd
      refine law.moved found live ?_ ?_ notReserved ?_ ?_ ?_
      · intro id
        cases toStatus <;> simp [moveEntries]
      · intro id
        cases toStatus <;> simp [moveEntries]
      · exact fun status => (notReleased status).elim
      · exact fun status => (notCommitted status).elim
      · exact fun status => (notFreed status).elim
  | @settled _ _ _ invocation _ _ _ _ _ _ _ settling via =>
      have found := settling.invocationFound
      cases via with
      | finalized fromStatus =>
          have live : invocation.status.isLive = true := by
            simp only [List.mem_cons, List.not_mem_nil, or_false]
              at fromStatus
            rcases fromStatus with status | status <;> rw [status] <;> rfl
          refine law.moved found live (by simp) (by simp) (by decide) ?_ ?_
            ?_ <;> intro impossible <;> cases impossible
      | reconciled fromStatus ofAttempt toStatus kind =>
          exact law.reconciled found fromStatus ofAttempt toStatus
            (.inl ⟨rfl, kind⟩)
  | resettled resettling via =>
      cases via with
      | reconciled fromStatus ofAttempt toStatus kind =>
          exact law.reconciled resettling.invocationFound fromStatus
            ofAttempt toStatus (.inl ⟨rfl, kind⟩)
  | @released _ invocation _ _ _ releasing via =>
      have found := releasing.invocationFound
      cases via with
      | finalized fromStatus =>
          have reserved := fromStatus rule
          have live : invocation.status.isLive = true := by
            rw [reserved]
            rfl
          refine law.moved found live (by simp) (by simp) (by decide) ?_ ?_
            ?_
          · intro _ executing
            rw [List.map_nil, List.append_nil] at executing
            have member := Table.mem_of_find found
            exact (law.executed invocation member executing).1 reserved
          · intro impossible
            cases impossible
          · intro impossible
            cases impossible
      | reconciled fromStatus ofAttempt toStatus kind =>
          exact law.reconciled found fromStatus ofAttempt toStatus
            (.inr ⟨rfl, kind⟩)
  | _ => exact law.noted (by simp [Entry.isNoise])

/-- Without attempts there is nothing to tell. -/
theorem empty : Logged Sys.start.db.invocations Sys.start.log where
  reserved := by
    intro row member
    cases member
  reservedKnown := by
    intro id member
    cases member
  executingKnown := by
    intro id member
    cases member
  executed := by
    intro row member
    cases member
  completed := by
    intro row member
    cases member
  freed := by
    intro row member
    cases member
  order := by
    intro first member
    cases member

end Logged

/-- Every step has an effect, whose entries it logs before any noise. -/
theorem Stepped.logged
    {env : Env}
    {discipline : Discipline}
    {s s' : Sys}
    {action : Action}
    (stepped : Stepped env discipline s action s') :
    ∃ origin entries noise,
      Effect env discipline origin s.db entries s'.db ∧
        s'.log = s.log ++ entries ++ noise ∧
        (∀ entry ∈ noise, entry.isNoise = true) ∧
        ∀ id, origin = .finish id →
          ∃ attempt toolResult,
            s.calls.find id = some ⟨attempt, .returned toolResult⟩ := by
  have noFinish
      {origin : Origin}
      (other : ∀ id, origin ≠ .finish id)
      (id : Id)
      (isFinish : origin = .finish id) :
      ∃ attempt toolResult,
        s.calls.find id = some ⟨attempt, .returned toolResult⟩ :=
    (other id isFinish).elim
  cases stepped with
  | txn _ effect =>
      exact ⟨_, _, [], effect, (List.append_nil _).symm, by simp,
        noFinish (by simp)⟩
  | @answered _ request _ result _ effect =>
      refine ⟨.call, [], [.answered request result], effect, ?_,
        by simp [Entry.isNoise], noFinish (by simp)⟩
      rw [List.append_nil]
      rfl
  | began _ effect =>
      exact ⟨_, _, [], effect, (List.append_nil _).symm, by simp,
        noFinish (by simp)⟩
  | @marked attempt row call found sameId reserved =>
      have move : Move row.status .executing := reserved ▸ .execute
      refine ⟨.call, _, [], .moved found move, ?_, by simp, noFinish (by simp)⟩
      rw [List.append_nil, sameId]
      rfl
  | @unmarked attempt result =>
      refine ⟨.call, [], [.answered attempt.request result], .idle, ?_,
        by simp [Entry.isNoise], noFinish (by simp)⟩
      rw [List.append_nil]
      rfl
  | @dispatched attempt =>
      refine ⟨.call, [], [.dispatched attempt.invocation.id], .idle, ?_,
        by simp [Entry.isNoise], noFinish (by simp)⟩
      rw [List.append_nil]
      rfl
  | @returned attempt =>
      refine ⟨.call, [], [.returned attempt.invocation.id], .idle, ?_,
        by simp [Entry.isNoise], noFinish (by simp)⟩
      rw [List.append_nil]
      rfl
  | raised =>
      refine ⟨.call, [], [], .idle, ?_, by simp, noFinish (by simp)⟩
      rw [List.append_nil, List.append_nil]
      rfl
  | @failed attempt _ result _ _ _ effect =>
      refine ⟨.call, [], [.answered attempt.request result], effect, ?_,
        by simp [Entry.isNoise], noFinish (by simp)⟩
      rw [List.append_nil]
      rfl
  | @lost attempt _ _ result =>
      refine ⟨.call, [], [.answered attempt.request result], .idle, ?_,
        by simp [Entry.isNoise], noFinish (by simp)⟩
      rw [List.append_nil]
      rfl
  | @finished attempt toolResult _ _ _ _ receipt _ _ _ _ call _ _ _ _ _
      effect =>
      refine ⟨.finish attempt.invocation.id, [],
        [.answered attempt.request (attempt.success toolResult receipt)],
        effect, ?_, by simp [Entry.isNoise], ?_⟩
      · rw [List.append_nil]
        rfl
      · intro id isCaller
        cases isCaller
        exact ⟨attempt, toolResult, call⟩

/-- In every reachable state the log tells what the attempts have done. -/
theorem reachable_logged
    {env : Env}
    {allowed : Sys → Action → Prop}
    {s : Sys}
    (discipline : Discipline)
    (rule : discipline.defaultRelease)
    (keeps : ∀ s action, allowed s action → discipline.Allows action)
    (reachable : Reachable env allowed s) :
    Logged s.db.invocations s.log := by
  apply reachable_invariant discipline
    (fun s => Logged s.db.invocations s.log) keeps .empty _ reachable
  intro s s' action isReachable law _ stepped
  obtain ⟨origin, entries, noise, effect, grows, isNoise, _⟩ :=
    stepped.logged
  have attempts := reachable_attempts discipline rule keeps isReachable
  rw [grows]
  exact (law.effect attempts rule effect).noted isNoise

/-! ## One live attempt and one dispatch -/

/--
A logical operation has at most one live attempt, which has its claim, and two
of its attempts reach the provider only when the first was given up on evidence
before the second was reserved.
-/
theorem one_live_attempt_and_dispatch
    {env : Env}
    {s : Sys}
    (reachable :
      Reachable env (fun _ action => Discipline.release.Allows action) s) :
    (∀ at_,
      (∀ first ∈ s.db.invocations.rows, ∀ second ∈ s.db.invocations.rows,
        first.operation = some at_ → second.operation = some at_ →
          first.status.isLive = true → second.status.isLive = true →
            first = second) ∧
        ((∃ claim, s.db.idempotencyRecords.find at_ = some claim) ↔
          ∃ row ∈ s.db.invocations.rows,
            row.operation = some at_ ∧ row.status.isLive = true) ∧
        ∀ claim, s.db.idempotencyRecords.find at_ = some claim →
          ∀ row ∈ s.db.invocations.rows, row.operation = some at_ →
            row.status.isLive = true →
              (claim.status = .inProgress ↔
                  row.status ∈
                    [InvocationStatus.reserved, .executing, .executedFail,
                      .ambiguous]) ∧
                (claim.status = .completed ↔
                  row.status ∈
                    [InvocationStatus.committed, .reconciledCommitted])) ∧
      (∀ id, s.log.count (.dispatched id) ≤ 1) ∧
      ∀ at_, ∀ first ∈ s.db.invocations.rows,
        ∀ second ∈ s.db.invocations.rows,
          first.operation = some at_ → second.operation = some at_ →
            first.id ≠ second.id →
              .dispatched first.id ∈ s.log →
                .dispatched second.id ∈ s.log →
                  (Transition.Before (.reserved first.id)
                        (.reserved second.id) s.log ∨
                      Transition.Before (.reserved second.id)
                        (.reserved first.id) s.log) ∧
                    (Transition.Before (.reserved first.id)
                        (.reserved second.id) s.log →
                      ∃ event,
                        Evidenced s.log first.id .reconciledReleased
                            .didNotExecute event ∧
                          Transition.Before (.reconciled event)
                            (.reserved second.id) s.log) := by
  have keeps :
      ∀ (s : Sys) action,
        Discipline.release.Allows action →
          Discipline.release.Allows action :=
    fun _ _ kept => kept
  have law := reachable_attempts .release trivial keeps reachable
  have logged := reachable_logged .release trivial keeps reachable
  have dispatched := reachable_dispatched reachable
  refine ⟨?_, dispatched.once, ?_⟩
  · intro at_
    refine ⟨?_, ⟨?_, ?_⟩, ?_⟩
    · intro first member second member' operation operation' live live'
      exact law.unique first member live second member' live' at_ operation
        operation'
    · rintro ⟨claim, found⟩
      obtain ⟨row, member, operation, live, _⟩ := law.owned at_ claim found
      exact ⟨row, member, operation, live⟩
    · rintro ⟨row, member, operation, live⟩
      exact law.claimed row member live at_ operation
    · intro claim found row member operation live
      rw [law.claim_status member live operation found]
      exact InvocationStatus.claimStatus_iff live (law.noneOk row member)
  · intro at_ first member second member' operation operation' different
      isDispatched isDispatched'
    constructor
    · exact Transition.before_or_before (logged.reserved first member)
        (logged.reserved second member') (by simp [different])
    · intro before
      have executed :=
        logged.executed first member (dispatched.barrier _ isDispatched)
      have given :=
        logged.order first member second member' different at_ operation
          operation' before
      rcases given with released | ⟨_, evidence⟩
      · exact (executed.2 released).elim
      · exact evidence

/-- The call whose provider fails, and that is given up on evidence. -/
def giveUp : List Action :=
  [.invoke [] call (drawTen 1), .mark 1, .dispatch 1,
    .providerRaises 1 "down", .fail 1,
    .txn []
      (.postReconcile "operator" (fun _ => true) 1
        { outcome := "released"
          evidenceRef := "ticket"
          evidenceKind := "did_not_execute" }
        (drawFinish 1))]

/-- A retry after evidence reaches the provider a second time. -/
theorem one_live_attempt_and_dispatch_example :
    ∃ s,
      Reachable .plain (fun _ action => Discipline.release.Allows action)
          s ∧
        (∀ id, s.log.count (.dispatched id) ≤ 1) ∧
        Entry.dispatched 1 ∈ s.log ∧
        Entry.dispatched 2 ∈ s.log := by
  have checked :
      (run .plain Sys.start
          (deploy ++ giveUp ++
            [.invoke [] call (drawTen 2), .mark 2, .dispatch 2])).any
          (fun s =>
            .dispatched 1 ∈ s.log ∧ .dispatched 2 ∈ s.log) =
        true := by
    decide
  obtain ⟨s, reachable, passes⟩ :=
    reachable_of_check (.routine (by decide) .release _) checked
  exact ⟨s, reachable, (one_live_attempt_and_dispatch reachable).2.1,
    of_decide_eq_true passes⟩

end Crossing

import Crossing.Runs

namespace Crossing

open Relational

/-!
# Attempts and claims

A logical operation is a principal and a key.  Its claim is deleted and
completed by that pair, not by the attempt, so what keeps attempts apart is a
law of the two tables together: the claim of an operation is there exactly
while one attempt at it is live, and it tells whether that attempt is done.
-/

/-- The tables that keep attempts apart. -/
structure Attempts where
  invocations : Table Invocation
  claims : Table IdempotencyRecord

/-- The attempts of a database. -/
def Db.attempts (db : Db) : Attempts where
  invocations := db.invocations
  claims := db.idempotencyRecords

namespace InvocationStatus

/-- Every status but the two that release the attempt. -/
def isLive (status : InvocationStatus) : Bool :=
  status ≠ .released && status ≠ .reconciledReleased

/-- The claim status that goes with a live attempt. -/
def claimStatus : InvocationStatus → ClaimStatus
  | .committed | .reconciledCommitted => .completed
  | _ => .inProgress

end InvocationStatus

/-- How an attempt comes to success. -/
inductive Completes : InvocationStatus → InvocationStatus → Prop where
  | commit : Completes .executing .committed
  | reconcile
      {status : InvocationStatus}
      (fromStatus : status ∈ reconcileFrom) :
      Completes status .reconciledCommitted

/-- How an attempt is given up. -/
inductive Frees : InvocationStatus → InvocationStatus → Prop where
  | release : Frees .reserved .released
  | reconcile
      {status : InvocationStatus}
      (fromStatus : status ∈ reconcileFrom) :
      Frees status .reconciledReleased

/-- The steps of attempts and claims. -/
inductive AttemptStep (attempts : Attempts) : Attempts → Prop where
  | still : AttemptStep attempts attempts
  | opened
      {invocation : Invocation}
      {invocations : Table Invocation}
      {claims : Table IdempotencyRecord}
      (reserved : invocation.status = .reserved)
      (inserted :
        attempts.invocations.insert? invocation = some invocations)
      (unclaimed :
        ∀ at_, invocation.operation = some at_ →
          attempts.claims.find at_ = none)
      (claimed :
        ClaimsChange invocation.operation
          (fun at_ _ => some (openClaim invocation.requestHash at_))
          attempts.claims claims) :
      AttemptStep attempts { invocations := invocations, claims := claims }
  | moved
      {invocation : Invocation}
      {toStatus : InvocationStatus}
      (found :
        attempts.invocations.find invocation.id = some invocation)
      (move : Move invocation.status toStatus) :
      AttemptStep attempts
        { attempts with
          invocations :=
            attempts.invocations.put { invocation with status := toStatus } }
  | completed
      {invocation : Invocation}
      {toStatus : InvocationStatus}
      {payload : Option InvokeResult}
      {claims : Table IdempotencyRecord}
      (found :
        attempts.invocations.find invocation.id = some invocation)
      (way : Completes invocation.status toStatus)
      (completes :
        ClaimsChange invocation.operation (completion invocation payload)
          attempts.claims claims) :
      AttemptStep attempts
        { invocations :=
            attempts.invocations.put { invocation with status := toStatus }
          claims := claims }
  | freed
      {invocation : Invocation}
      {toStatus : InvocationStatus}
      {claims : Table IdempotencyRecord}
      (found :
        attempts.invocations.find invocation.id = some invocation)
      (way : Frees invocation.status toStatus)
      (cleared :
        ClaimsChange invocation.operation (fun _ _ => none)
          attempts.claims claims) :
      AttemptStep attempts
        { invocations :=
            attempts.invocations.put { invocation with status := toStatus }
          claims := claims }

section Statuses

variable {status toStatus : InvocationStatus}

/-- A move keeps an attempt live and in progress. -/
theorem Move.inProgress
    (move : Move status toStatus) :
    status.isLive = true ∧
      toStatus.isLive = true ∧
      toStatus ≠ .executedOk ∧
      status.claimStatus = .inProgress ∧
      toStatus.claimStatus = .inProgress := by
  cases move with
  | execute => decide
  | fail => decide
  | lose inFlight =>
      simp only [List.mem_cons, List.not_mem_nil, or_false] at inFlight
      rcases inFlight with rfl | rfl <;> decide

/-- A move neither starts an attempt nor ends it. -/
theorem Move.notEnd
    (move : Move status toStatus) :
    toStatus ≠ .reserved ∧
      toStatus ≠ .released ∧
      toStatus ≠ .reconciledCommitted ∧
      toStatus ≠ .reconciledReleased := by
  cases move <;> decide

/-- No move commits an attempt. -/
theorem Move.notCommitted
    (move : Move status toStatus) :
    toStatus ≠ .committed := by
  cases move <;> decide

/-- Attempts that reconciliation accepts are live and in progress. -/
theorem live_of_reconcileFrom
    (fromStatus : status ∈ reconcileFrom) :
    status.isLive = true ∧ status.claimStatus = .inProgress := by
  simp only [reconcileFrom, List.mem_cons, List.not_mem_nil, or_false]
    at fromStatus
  rcases fromStatus with rfl | rfl <;> decide

/-- A completion takes a live attempt from in progress to completed. -/
theorem Completes.completed
    (way : Completes status toStatus) :
    status.isLive = true ∧
      toStatus.isLive = true ∧
      toStatus ≠ .executedOk ∧
      status.claimStatus = .inProgress ∧
      toStatus.claimStatus = .completed := by
  cases way with
  | commit => decide
  | reconcile fromStatus =>
      obtain ⟨live, inProgress⟩ := live_of_reconcileFrom fromStatus
      exact ⟨live, rfl, by decide, inProgress, rfl⟩

/-- A live attempt in progress is given up. -/
theorem Frees.freed
    (way : Frees status toStatus) :
    status.isLive = true ∧
      toStatus.isLive = false ∧
      toStatus ≠ .executedOk ∧
      status.claimStatus = .inProgress := by
  cases way with
  | release => decide
  | reconcile fromStatus =>
      obtain ⟨live, inProgress⟩ := live_of_reconcileFrom fromStatus
      exact ⟨live, rfl, by decide, inProgress⟩

end Statuses

/-- A success refines a completion when no attempt is in `executed_ok`. -/
theorem SuccessVia.completes
    {env : Env}
    {discipline : Discipline}
    {origin : Origin}
    {callbacks : FinalizeCallbacks}
    {invocation : Invocation}
    {toStatus : InvocationStatus}
    {payload : Option Receipt → Option InvokeResult}
    {evidence : List ReconciliationEvent}
    (via :
      SuccessVia env discipline origin callbacks invocation toStatus payload
        evidence)
    (notOk : invocation.status ≠ .executedOk) :
    Completes invocation.status toStatus := by
  cases via with
  | finalized fromStatus =>
      have executing : invocation.status = .executing := by
        simpa [notOk] using fromStatus
      rw [executing]
      exact .commit
  | reconciled fromStatus => exact .reconcile fromStatus

/-- A release frees an attempt when the finalizer keeps its default. -/
theorem ReleaseVia.frees
    {discipline : Discipline}
    {invocation : Invocation}
    {toStatus : InvocationStatus}
    {evidence : List ReconciliationEvent}
    (via : ReleaseVia discipline invocation toStatus evidence)
    (rule : discipline.defaultRelease) :
    Frees invocation.status toStatus := by
  cases via with
  | finalized fromStatus =>
      rw [fromStatus rule]
      exact .release
  | reconciled fromStatus => exact .reconcile fromStatus

/-- Every committed transaction refines a step of the attempts. -/
theorem Effect.attempts
    {env : Env}
    {discipline : Discipline}
    {origin : Origin}
    {db db' : Db}
    {entries : List Entry}
    (effect : Effect env discipline origin db entries db')
    (rule : discipline.defaultRelease)
    (noneOk : ∀ row ∈ db.invocations.rows, row.status ≠ .executedOk) :
    AttemptStep db.attempts db'.attempts := by
  cases effect with
  | booked => exact .still
  | registered => exact .still
  | agentAdded => exact .still
  | agentsRevoked => exact .still
  | relinked => exact .still
  | drained => exact .still
  | denied => exact .still
  | issuedRoot => exact .still
  | issuedChild => exact .still
  | mandateRevoked => exact .still
  | reservedOnly => exact .still
  | opened opening =>
      exact .opened opening.reserved opening.inserted opening.unclaimed
        opening.claimed
  | moved found move => exact .moved found move
  | settled settling via =>
      have found := settling.invocationFound
      exact .completed found
        (via.completes (noneOk _ (Table.mem_of_find found)))
        settling.completed
  | resettled resettling via =>
      have found := resettling.invocationFound
      exact .completed found
        (via.completes (noneOk _ (Table.mem_of_find found)))
        resettling.completed
  | released releasing via =>
      exact .freed releasing.invocationFound (via.frees rule)
        releasing.cleared
  | committedOnly => exact .still
  | refundedOnly => exact .still

namespace Attempts

/-- The law of attempts and claims. -/
structure Law (attempts : Attempts) : Prop where
  noneOk :
    ∀ row ∈ attempts.invocations.rows, row.status ≠ .executedOk
  owned :
    ∀ at_ claim, attempts.claims.find at_ = some claim →
      ∃ row ∈ attempts.invocations.rows,
        row.operation = some at_ ∧
          row.status.isLive = true ∧
          claim.status = row.status.claimStatus
  claimed :
    ∀ row ∈ attempts.invocations.rows, row.status.isLive = true →
      ∀ at_, row.operation = some at_ →
        ∃ claim, attempts.claims.find at_ = some claim
  unique :
    ∀ row ∈ attempts.invocations.rows, row.status.isLive = true →
      ∀ row' ∈ attempts.invocations.rows, row'.status.isLive = true →
        ∀ at_, row.operation = some at_ → row'.operation = some at_ →
          row = row'

namespace Law

variable {attempts : Attempts}

/-- The claim of a live attempt has the status that goes with it. -/
theorem claim_status
    (law : attempts.Law)
    {row : Invocation}
    {at_ : Id × String}
    {claim : IdempotencyRecord}
    (member : row ∈ attempts.invocations.rows)
    (live : row.status.isLive = true)
    (operation : row.operation = some at_)
    (found : attempts.claims.find at_ = some claim) :
    claim.status = row.status.claimStatus := by
  obtain ⟨owner, ownerMember, ownerOperation, ownerLive, same⟩ :=
    law.owned at_ claim found
  have isRow :=
    law.unique owner ownerMember ownerLive row member live at_
      ownerOperation operation
  rw [same, isRow]

/-- The claim of another operation keeps its owner when an attempt changes. -/
theorem owned_elsewhere
    (law : attempts.Law)
    {invocation : Invocation}
    {toStatus : InvocationStatus}
    {at_ : Id × String}
    {claim : IdempotencyRecord}
    (member : invocation ∈ attempts.invocations.rows)
    (isOther : invocation.operation ≠ some at_)
    (found : attempts.claims.find at_ = some claim) :
    ∃ row ∈
        (attempts.invocations.put
          { invocation with status := toStatus }).rows,
      row.operation = some at_ ∧
        row.status.isLive = true ∧
        claim.status = row.status.claimStatus := by
  obtain ⟨row, inOld, operation, rest⟩ := law.owned at_ claim found
  have different : row.id ≠ invocation.id := by
    intro same
    have isInvocation := Table.eq_of_key_eq inOld member same
    exact isOther (isInvocation ▸ operation)
  exact ⟨row, Table.mem_put_of_ne inOld different, operation, rest⟩

/-- A new attempt at an unclaimed operation keeps the law. -/
theorem opened
    (law : attempts.Law)
    {invocation : Invocation}
    {invocations : Table Invocation}
    {claims : Table IdempotencyRecord}
    (reserved : invocation.status = .reserved)
    (inserted : attempts.invocations.insert? invocation = some invocations)
    (unclaimed :
      ∀ at_, invocation.operation = some at_ →
        attempts.claims.find at_ = none)
    (claimed :
      ClaimsChange invocation.operation
        (fun at_ _ => some (openClaim invocation.requestHash at_))
        attempts.claims claims) :
    (Attempts.mk invocations claims).Law := by
  have isRow {row : Invocation} (member : row ∈ invocations.rows) :
      row ∈ attempts.invocations.rows ∨ row = invocation :=
    (Table.mem_insert inserted).mp member
  have newMember : invocation ∈ invocations.rows :=
    (Table.mem_insert inserted).mpr (.inr rfl)
  -- No older attempt at the operation is live: it would have the claim.
  have alone
      {row : Invocation}
      {at_ : Id × String}
      (member : row ∈ attempts.invocations.rows)
      (live : row.status.isLive = true)
      (operation : row.operation = some at_) :
      invocation.operation ≠ some at_ := by
    intro same
    obtain ⟨claim, found⟩ := law.claimed row member live at_ operation
    rw [unclaimed at_ same] at found
    cases found
  refine { noneOk := ?_, owned := ?_, claimed := ?_, unique := ?_ }
  · intro row member
    rcases isRow member with inOld | rfl
    · exact law.noneOk row inOld
    · simp [reserved]
  · intro at_ claim found
    by_cases isNew : invocation.operation = some at_
    · rw [claimed.find_self isNew] at found
      cases found
      exact ⟨invocation, newMember, isNew,
        by simp [reserved, InvocationStatus.isLive],
        by simp [reserved, InvocationStatus.claimStatus, openClaim]⟩
    · rw [claimed.find_of_ne isNew] at found
      obtain ⟨row, member, rest⟩ := law.owned at_ claim found
      exact ⟨row, (Table.mem_insert inserted).mpr (.inl member), rest⟩
  · intro row member live at_ operation
    by_cases isNew : invocation.operation = some at_
    · exact ⟨_, claimed.find_self isNew⟩
    · rcases isRow member with inOld | rfl
      · obtain ⟨claim, found⟩ := law.claimed row inOld live at_ operation
        exact ⟨claim, (claimed.find_of_ne isNew).trans found⟩
      · exact (isNew operation).elim
  · intro row member live row' member' live' at_ operation operation'
    rcases isRow member with inOld | rfl
    · rcases isRow member' with inOld' | rfl
      · exact law.unique row inOld live row' inOld' live' at_ operation
          operation'
      · exact (alone inOld live operation operation').elim
    · rcases isRow member' with inOld' | rfl
      · exact (alone inOld' live' operation' operation).elim
      · rfl

/--
A live attempt that stays live keeps the law when its claim gets the status
that goes with the new one.
-/
theorem advanced
    (law : attempts.Law)
    {invocation : Invocation}
    {toStatus : InvocationStatus}
    {claims : Table IdempotencyRecord}
    (found : attempts.invocations.find invocation.id = some invocation)
    (live : invocation.status.isLive = true)
    (stillLive : toStatus.isLive = true)
    (notOk : toStatus ≠ .executedOk)
    (ownClaim :
      ∀ at_, invocation.operation = some at_ →
        ∃ claim, claims.find at_ = some claim ∧
          claim.status = toStatus.claimStatus)
    (otherClaims :
      ∀ at_, invocation.operation ≠ some at_ →
        claims.find at_ = attempts.claims.find at_) :
    (Attempts.mk
      (attempts.invocations.put { invocation with status := toStatus })
      claims).Law := by
  have member := Table.mem_of_find found
  have newMember :
      ({ invocation with status := toStatus } : Invocation) ∈
        (attempts.invocations.put
          { invocation with status := toStatus }).rows := by
    apply Table.mem_of_find
    exact Table.find_put_self found
  have alone
      {row : Invocation}
      {at_ : Id × String}
      (inOld : row ∈ attempts.invocations.rows)
      (different : row.id ≠ invocation.id)
      (rowLive : row.status.isLive = true)
      (operation : row.operation = some at_) :
      invocation.operation ≠ some at_ := by
    intro same
    have isOld :=
      law.unique row inOld rowLive invocation member live at_ operation same
    exact different (congrArg Invocation.id isOld)
  refine { noneOk := ?_, owned := ?_, claimed := ?_, unique := ?_ }
  · intro row inNew
    rcases mem_moved inNew with rfl | ⟨inOld, _⟩
    · exact notOk
    · exact law.noneOk row inOld
  · intro at_ claim claimFound
    by_cases isOwn : invocation.operation = some at_
    · obtain ⟨own, ownFound, status⟩ := ownClaim at_ isOwn
      cases ownFound.symm.trans claimFound
      exact ⟨_, newMember, isOwn, stillLive, status⟩
    · rw [otherClaims at_ isOwn] at claimFound
      exact law.owned_elsewhere member isOwn claimFound
  · intro row inNew rowLive at_ operation
    by_cases isOwn : invocation.operation = some at_
    · obtain ⟨own, ownFound, _⟩ := ownClaim at_ isOwn
      exact ⟨own, ownFound⟩
    · rcases mem_moved inNew with rfl | ⟨inOld, _⟩
      · exact (isOwn operation).elim
      · obtain ⟨claim, claimFound⟩ :=
          law.claimed row inOld rowLive at_ operation
        exact ⟨claim, (otherClaims at_ isOwn).trans claimFound⟩
  · intro row inNew rowLive row' inNew' rowLive' at_ operation operation'
    rcases mem_moved inNew with rfl | ⟨inOld, different⟩
    · rcases mem_moved inNew' with rfl | ⟨inOld', different'⟩
      · rfl
      · exact (alone inOld' different' rowLive' operation' operation).elim
    · rcases mem_moved inNew' with rfl | ⟨inOld', _⟩
      · exact (alone inOld different rowLive operation operation').elim
      · exact law.unique row inOld rowLive row' inOld' rowLive' at_
          operation operation'

/-- An attempt that is given up with its claim keeps the law. -/
theorem freed
    (law : attempts.Law)
    {invocation : Invocation}
    {toStatus : InvocationStatus}
    {claims : Table IdempotencyRecord}
    (found : attempts.invocations.find invocation.id = some invocation)
    (live : invocation.status.isLive = true)
    (dead : toStatus.isLive = false)
    (notOk : toStatus ≠ .executedOk)
    (cleared :
      ClaimsChange invocation.operation (fun _ _ => none) attempts.claims
        claims) :
    (Attempts.mk
      (attempts.invocations.put { invocation with status := toStatus })
      claims).Law := by
  have member := Table.mem_of_find found
  -- A live row of the new table is an older one.
  have wasLive
      {row : Invocation}
      (inNew :
        row ∈
          (attempts.invocations.put
            { invocation with status := toStatus }).rows)
      (rowLive : row.status.isLive = true) :
      row ∈ attempts.invocations.rows ∧ row.id ≠ invocation.id := by
    rcases mem_moved inNew with rfl | inOld
    · rw [dead] at rowLive
      cases rowLive
    · exact inOld
  refine { noneOk := ?_, owned := ?_, claimed := ?_, unique := ?_ }
  · intro row inNew
    rcases mem_moved inNew with rfl | ⟨inOld, _⟩
    · exact notOk
    · exact law.noneOk row inOld
  · intro at_ claim claimFound
    by_cases isOwn : invocation.operation = some at_
    · rw [cleared.find_self isOwn] at claimFound
      cases claimFound
    · rw [cleared.find_of_ne isOwn] at claimFound
      exact law.owned_elsewhere member isOwn claimFound
  · intro row inNew rowLive at_ operation
    obtain ⟨inOld, different⟩ := wasLive inNew rowLive
    obtain ⟨claim, claimFound⟩ :=
      law.claimed row inOld rowLive at_ operation
    have isOther : invocation.operation ≠ some at_ := by
      intro same
      have isOld :=
        law.unique row inOld rowLive invocation member live at_ operation
          same
      exact different (congrArg Invocation.id isOld)
    exact ⟨claim, (cleared.find_of_ne isOther).trans claimFound⟩
  · intro row inNew rowLive row' inNew' rowLive' at_ operation operation'
    exact law.unique row (wasLive inNew rowLive).1 rowLive row'
      (wasLive inNew' rowLive').1 rowLive' at_ operation operation'

/-- Every step keeps the law. -/
theorem step
    {attempts' : Attempts}
    (law : attempts.Law)
    (step : AttemptStep attempts attempts') :
    attempts'.Law := by
  cases step with
  | still => exact law
  | opened reserved inserted unclaimed claimed =>
      exact law.opened reserved inserted unclaimed claimed
  | @moved invocation toStatus found move =>
      obtain ⟨live, stillLive, notOk, wasOpen, staysOpen⟩ := move.inProgress
      have member := Table.mem_of_find found
      refine law.advanced found live stillLive notOk ?_ fun _ _ => rfl
      intro at_ operation
      obtain ⟨claim, claimFound⟩ :=
        law.claimed invocation member live at_ operation
      have status := law.claim_status member live operation claimFound
      exact ⟨claim, claimFound, by rw [status, wasOpen, staysOpen]⟩
  | completed found way completes =>
      obtain ⟨live, stillLive, notOk, _, isDone⟩ := way.completed
      refine law.advanced found live stillLive notOk ?_ ?_
      · intro at_ operation
        refine ⟨_, completes.find_self operation, ?_⟩
        rw [isDone]
        unfold completedClaim
        split <;> rfl
      · intro at_ different
        exact completes.find_of_ne different
  | freed found way cleared =>
      obtain ⟨live, dead, notOk, _⟩ := way.freed
      exact law.freed found live dead notOk cleared

/-- Without attempts there is nothing to keep apart. -/
theorem empty : Db.empty.attempts.Law where
  noneOk := by
    intro row member
    cases member
  owned := by
    intro at_ claim found
    cases found
  claimed := by
    intro row member
    cases member
  unique := by
    intro row member
    cases member

/-- A completed claim stays as it is. -/
theorem completed_stays
    {attempts' : Attempts}
    (law : attempts.Law)
    (step : AttemptStep attempts attempts')
    {at_ : Id × String}
    {claim : IdempotencyRecord}
    (found : attempts.claims.find at_ = some claim)
    (isDone : claim.status = .completed) :
    attempts'.claims.find at_ = some claim := by
  -- No attempt in progress is at an operation whose claim is completed.
  have elsewhere
      {invocation : Invocation}
      (stored : attempts.invocations.find invocation.id = some invocation)
      (live : invocation.status.isLive = true)
      (inProgress : invocation.status.claimStatus = .inProgress) :
      invocation.operation ≠ some at_ := by
    intro operation
    have status :=
      law.claim_status (Table.mem_of_find stored) live operation found
    rw [isDone, inProgress] at status
    cases status
  cases step with
  | still => exact found
  | opened _ _ unclaimed claimed =>
      apply (claimed.find_of_ne ?_).trans found
      intro operation
      rw [unclaimed at_ operation] at found
      cases found
  | moved => exact found
  | completed stored way completes =>
      obtain ⟨live, _, _, inProgress, _⟩ := way.completed
      exact (completes.find_of_ne (elsewhere stored live inProgress)).trans
        found
  | freed stored way cleared =>
      obtain ⟨live, _, _, inProgress⟩ := way.freed
      exact (cleared.find_of_ne (elsewhere stored live inProgress)).trans
        found

end Law

end Attempts

/-- The status of a live attempt tells that of its claim. -/
theorem InvocationStatus.claimStatus_iff
    {status : InvocationStatus}
    (live : status.isLive = true)
    (notOk : status ≠ .executedOk) :
    (status.claimStatus = .inProgress ↔
        status ∈
          [InvocationStatus.reserved, .executing, .executedFail,
            .ambiguous]) ∧
      (status.claimStatus = .completed ↔
        status ∈ [InvocationStatus.committed, .reconciledCommitted]) := by
  cases status with
  | executedOk => exact (notOk rfl).elim
  | released => cases live
  | reconciledReleased => cases live
  | _ => decide

/-- The rule that every run needs for its attempts. -/
def Discipline.release : Discipline :=
  { Discipline.free with defaultRelease := True }

section Runs

variable
  {env : Env}
  {allowed : Sys → Action → Prop}
  {s s' : Sys}

/-- In every reachable state of a disciplined run the law holds. -/
theorem reachable_attempts
    (discipline : Discipline)
    (rule : discipline.defaultRelease)
    (keeps : ∀ s action, allowed s action → discipline.Allows action)
    (reachable : Reachable env allowed s) :
    s.db.attempts.Law := by
  apply reachable_db_invariant discipline (fun db => db.attempts.Law) keeps
    .empty _ reachable
  intro s origin entries db' _ effect law
  exact law.step (effect.attempts rule law.noneOk)

/-- A step of a disciplined run refines a step of the attempts. -/
theorem step_attempts
    {discipline : Discipline}
    (rule : discipline.defaultRelease)
    (keeps : ∀ s action, allowed s action → discipline.Allows action)
    (reachable : Reachable env allowed s)
    (taken : Step env allowed s s') :
    AttemptStep s.db.attempts s'.db.attempts := by
  obtain ⟨action, isAllowed, taken⟩ := taken
  have shape :=
    stepped (reachable_kept reachable) (keeps s action isAllowed) taken
  obtain ⟨_, _, effect⟩ := shape.effect
  have law := reachable_attempts discipline rule keeps reachable
  exact effect.attempts rule law.noneOk

end Runs

end Crossing

import Crossing.LedgerSpec
import Crossing.OutboxProcesses

namespace Crossing

open Relational
open Relational.Transaction

/-!
# What one statement does to the outbox

`Took` lists the steps of the system, one case for each way a statement can
end.  The lemmas on single rows say what a claim, a recorded result and a
requeue leave in a row that fits its status.
-/

/-! ## Rows and jobs -/

/-- The retry counter of a row fits its status. -/
structure Outbox.Fit (row : Outbox) : Prop where
  retried :
    row.status ∈ [OutboxStatus.pending, .failed, .sending] →
      row.attempts < maxAttempts
  exhausted :
    row.status = .dead →
      row.attempts = maxAttempts ∧
        row.nextAttemptAt = none ∧
        row.claimedAt.isSome = true

/-- A dead row whose retry counter is exhausted. -/
def Outbox.Dead (row : Outbox) : Prop :=
  row.status = .dead ∧ row.Fit

/-- A row as a claim has left it. -/
def Outbox.Taken (row : Outbox) : Prop :=
  row.status = .sending ∧ row.attempts < maxAttempts

/-- The session holds a claimed row, or nothing. -/
def Job.Fit (job : Job) : Prop :=
  ∀ row, job.cached = some row → row.Taken

/-! ## Writes to one row -/

section Rows

variable {row : Outbox}

@[simp] theorem claimedRow_id (now : Int) :
    (claimedRow now row).id = row.id := rfl

@[simp] theorem requeuedRow_id (now : Int) (loaded : Outbox) :
    (requeuedRow now loaded row).id = row.id := rfl

@[simp] theorem terminalValues_key
    (now : Int)
    (attemptsAfter : Nat)
    (result : StripeResult) :
    (terminalValues now attemptsAfter result row).id = row.id := by
  unfold terminalValues
  cases result with
  | failed error => dsimp only; split <;> rfl
  | _ => rfl

/-- The status of a recorded result. -/
@[simp] theorem terminalValues_status
    (now : Int)
    (attemptsAfter : Nat)
    (result : StripeResult) :
    (terminalValues now attemptsAfter result row).status =
      terminalStatus attemptsAfter result := by
  unfold terminalValues terminalStatus
  cases result with
  | failed error => dsimp only; split <;> rfl
  | _ => rfl

/-- The retry counter of a recorded result. -/
@[simp] theorem terminalValues_attempts
    (now : Int)
    (attemptsAfter : Nat)
    (result : StripeResult) :
    (terminalValues now attemptsAfter result row).attempts =
      attemptsAfter := by
  unfold terminalValues
  cases result with
  | failed error => dsimp only; split <;> rfl
  | _ => rfl

/-- A recorded result leaves the payload alone. -/
@[simp] theorem terminalValues_payloadJson
    (now : Int)
    (attemptsAfter : Nat)
    (result : StripeResult) :
    (terminalValues now attemptsAfter result row).payloadJson =
      row.payloadJson := by
  unfold terminalValues
  cases result with
  | failed error => dsimp only; split <;> rfl
  | _ => rfl

/-- The statuses that a claim accepts. -/
theorem claimable_status
    {now stale : Int}
    (isClaimable : claimable now stale row = true) :
    row.status ∈ [OutboxStatus.pending, .failed, .sending] := by
  unfold claimable at isClaimable
  simp only [Bool.or_eq_true, Bool.and_eq_true, decide_eq_true_eq]
    at isClaimable
  simp only [List.mem_cons, List.not_mem_nil, or_false] at isClaimable ⊢
  tauto

/-- A row that is added fits. -/
theorem pendingOutbox_fit
    (env : Env)
    (account : Option Account)
    (receiptId : Id)
    (amountCents : Cents)
    (principalId newId : Id) :
    (pendingOutbox env account receiptId amountCents principalId
      newId).Fit where
  retried _ := by
    change 0 < maxAttempts
    decide
  exhausted impossible := by cases impossible

/-- A claim keeps a row fit. -/
theorem Outbox.Fit.claimed
    {now stale : Int}
    (fit : row.Fit)
    (isClaimable : claimable now stale row = true) :
    (claimedRow now row).Fit where
  retried _ := fit.retried (claimable_status isClaimable)
  exhausted impossible := by cases impossible

/-- A recorded result keeps a row fit. -/
theorem fit_terminalValues
    {now : Int}
    {attemptsAfter : Nat}
    (result : StripeResult)
    (bounded : attemptsAfter ≤ maxAttempts) :
    (terminalValues now attemptsAfter result row).Fit := by
  cases result with
  | noop => exact ⟨by simp [terminalValues], by simp [terminalValues]⟩
  | ok => exact ⟨by simp [terminalValues], by simp [terminalValues]⟩
  | failed error =>
      unfold terminalValues
      dsimp only
      split
      · rename_i exhausted
        refine ⟨by simp, ?_⟩
        intro _
        exact ⟨le_antisymm bounded exhausted, rfl, rfl⟩
      · rename_i retries
        exact ⟨fun _ => not_le.mp retries, by simp⟩

/-- The flush of a dead row writes all four columns. -/
theorem requeuedRow_dead
    {now : Int}
    {loaded : Outbox}
    (dead : loaded.Dead) :
    requeuedRow now loaded row =
      { row with
        status := .pending
        attempts := 0
        nextAttemptAt := some now
        claimedAt := none } := by
  obtain ⟨isDead, fit⟩ := dead
  obtain ⟨attempts, next, claimed⟩ := fit.exhausted isDead
  have wasClaimed : loaded.claimedAt ≠ none := by
    intro isNone
    simp [isNone] at claimed
  unfold requeuedRow
  simp [isDead, attempts, next, wasClaimed, maxAttempts]

/-- A requeue leaves a row fit. -/
theorem fit_requeuedRow
    {now : Int}
    {loaded : Outbox}
    (dead : loaded.Dead) :
    (requeuedRow now loaded row).Fit := by
  rw [requeuedRow_dead dead]
  refine ⟨?_, by simp⟩
  intro _
  change 0 < maxAttempts
  decide

end Rows

/-! ## What a step does to the system -/

/-- The steps of the system, one case for each way a statement can end. -/
inductive OutboxSys.Took (s : OutboxSys) : OutboxAction → OutboxSys → Prop where
  | transacted
      {txn : BillingTxn}
      {db : Db}
      (ran : exec (txn.body s.db) s.db = (.ok (), db)) :
      Took s (.txn txn) { s with db := db }
  | began
      {p : Nat}
      {now : Int}
      {raw : Option Int}
      {limit : Nat}
      (idle : s.processes p = .idle) :
      Took s (.begin p now raw limit)
        (s.become p (.selecting now (leaseSeconds raw) limit))
  | selected
      {p limit : Nat}
      {now lease : Int}
      {ids : List Id}
      (selecting : s.processes p = .selecting now lease limit)
      (selects : s.Selects now lease limit ids) :
      Took s (.select p ids) (s.become p (.claiming now lease ids []))
  | claimMissed
      {p : Nat}
      {now lease : Int}
      {id : Id}
      {left claimed : List Id}
      (claiming : s.processes p = .claiming now lease (id :: left) claimed)
      (answered :
        s.locks.update s.db.billingOutbox p id
            (claimable now (staleAt now lease)) (claimedRow now) =
          .missed) :
      Took s (.claim p) (s.become p (.claiming now lease left claimed))
  | claimed
      {p : Nat}
      {now lease : Int}
      {id : Id}
      {left claimed : List Id}
      {old new : Outbox}
      (claiming : s.processes p = .claiming now lease (id :: left) claimed)
      (answered :
        s.locks.update s.db.billingOutbox p id
            (claimable now (staleAt now lease)) (claimedRow now) =
          .wrote old new) :
      Took s (.claim p)
        ((s.wrote p new).become p
          (.claiming now lease left (claimed ++ [id])))
  | claimsCommitted
      {p : Nat}
      {now lease : Int}
      {claimed : List Id}
      (claiming : s.processes p = .claiming now lease [] claimed) :
      Took s (.commitClaims p)
        { (s.commit p
              (claimed.map fun id => .claimed id s.claims now lease)).become p
            (.next
              ((claimed.filterMap
                  (s.locks.read s.db.billingOutbox p)).map
                (Job.ofRow s.claims))) with
          claims := s.claims + 1 }
  | posted
      {p : Nat}
      {configured : Bool}
      {response : StripeResponse}
      {job : Job}
      {rest : List Job}
      {result : StripeResult}
      (posting : s.processes p = .posting job rest)
      (isResult : result = postStripe configured job.payload response) :
      Took s (.post p configured response)
        ((s.record (.posted job.id job.claim result)).become p
          (.loading job result rest))
  | loaded
      {p : Nat}
      {job : Job}
      {rest : List Job}
      {result : StripeResult}
      {seen : Outbox}
      (loading : s.processes p = .loading job result rest)
      (isSeen : job.cached.or (s.row job.id) = some seen)
      (sending : seen.status = .sending) :
      Took s (.load p) (s.become p (.recording seen job result rest))
  | passed
      {p : Nat}
      {job : Job}
      {rest : List Job}
      {result : StripeResult}
      (loading : s.processes p = .loading job result rest)
      (unseen :
        ∀ seen, job.cached.or (s.row job.id) = some seen →
          seen.status ≠ .sending) :
      Took s (.load p) (s.become p (.afterJob rest))
  | recordMissed
      {p : Nat}
      {now : Int}
      {job : Job}
      {rest : List Job}
      {result : StripeResult}
      {seen : Outbox}
      (recording : s.processes p = .recording seen job result rest)
      (answered :
        s.locks.update s.db.billingOutbox p job.id
            (fun row => row.status = .sending)
            (terminalValues now (seen.attempts + 1) result) =
          .missed) :
      Took s (.record p now) (s.become p (.afterJob rest))
  | recorded
      {p : Nat}
      {now : Int}
      {job : Job}
      {rest : List Job}
      {result : StripeResult}
      {seen old new : Outbox}
      (recording : s.processes p = .recording seen job result rest)
      (answered :
        s.locks.update s.db.billingOutbox p job.id
            (fun row => row.status = .sending)
            (terminalValues now (seen.attempts + 1) result) =
          .wrote old new) :
      Took s (.record p now)
        ((s.wrote p new).become p
          (.recorded job result now (seen.attempts + 1) rest))
  | recordCommitted
      {p attemptsAfter : Nat}
      {now : Int}
      {job : Job}
      {rest : List Job}
      {result : StripeResult}
      (isRecorded :
        s.processes p = .recorded job result now attemptsAfter rest) :
      Took s (.commitRecord p)
        ((s.commit p
            [.recorded job.id job.claim now attemptsAfter
              (terminalStatus attemptsAfter result)]).become p
          (.afterJob rest))
  | viewed
      {p : Nat}
      {outboxId : Id}
      {held : Outbox}
      (idle : s.processes p = .idle)
      (found : s.row outboxId = some held)
      (dead : held.status = .dead) :
      Took s (.view p outboxId) (s.become p (.viewing held))
  | deadSelected
      {p : Nat}
      {now : Int}
      {outboxId : Option Id}
      {rows : List Outbox}
      (loads : s.loaded outboxId (s.processes p) = some rows) :
      Took s (.selectDead p now outboxId) (s.become p (.flushing now rows []))
  | flushMissed
      {p : Nat}
      {now : Int}
      {loaded : Outbox}
      {left flushed : List Outbox}
      (flushing : s.processes p = .flushing now (loaded :: left) flushed)
      (answered :
        s.locks.update s.db.billingOutbox p loaded.id (fun _ => true)
            (requeuedRow now loaded) =
          .missed) :
      Took s (.flush p) ((s.rollback p).become p .idle)
  | flushed
      {p : Nat}
      {now : Int}
      {loaded old new : Outbox}
      {left flushed : List Outbox}
      (flushing : s.processes p = .flushing now (loaded :: left) flushed)
      (answered :
        s.locks.update s.db.billingOutbox p loaded.id (fun _ => true)
            (requeuedRow now loaded) =
          .wrote old new) :
      Took s (.flush p)
        ((s.wrote p new).become p (.flushing now left (flushed ++ [loaded])))
  | requeueCommitted
      {p : Nat}
      {now : Int}
      {flushed : List Outbox}
      (flushing : s.processes p = .flushing now [] flushed) :
      Took s (.commitRequeue p)
        ((s.commit p
            (flushed.map fun row => .requeued row.id)).become p .idle)
  | stopped {p : Nat} : Took s (.stop p) ((s.rollback p).become p .idle)

/-- Every step is one of these. -/
theorem OutboxSys.step_took
    {s s' : OutboxSys}
    {action : OutboxAction}
    (taken : s.step action = some s') :
    s.Took action s' := by
  cases action with
  | txn txn =>
      simp only [step, Option.map_eq_some_iff] at taken
      obtain ⟨⟨⟨⟩, db⟩, committed, rfl⟩ := taken
      exact .transacted (commit_eq_some.mp committed)
  | begin p now raw limit =>
      simp only [step] at taken
      split at taken
      · rename_i idle
        cases taken
        exact .began idle
      · cases taken
  | select p ids =>
      simp only [step] at taken
      split at taken
      · rename_i selecting
        split at taken
        · rename_i selects
          cases taken
          exact .selected selecting selects
        · cases taken
      · cases taken
  | claim p =>
      simp only [step] at taken
      split at taken
      · rename_i claiming
        split at taken
        · cases taken
        · rename_i answered
          cases taken
          exact .claimMissed claiming answered
        · rename_i answered
          cases taken
          exact .claimed claiming answered
      · cases taken
  | commitClaims p =>
      simp only [step] at taken
      split at taken
      · rename_i claiming
        cases taken
        exact .claimsCommitted claiming
      · cases taken
  | post p configured response =>
      simp only [step] at taken
      split at taken
      · rename_i posting
        cases taken
        exact .posted posting rfl
      · cases taken
  | load p =>
      simp only [step] at taken
      split at taken
      · rename_i loading
        split at taken
        · rename_i missing
          cases taken
          exact .passed loading (by simp [missing])
        · rename_i isSeen
          split at taken
          · rename_i sending
            cases taken
            exact .loaded loading isSeen sending
          · rename_i notSending
            cases taken
            apply OutboxSys.Took.passed loading
            intro seen same
            rw [isSeen] at same
            cases same
            exact notSending
      · cases taken
  | record p now =>
      simp only [step] at taken
      split at taken
      · rename_i recording
        split at taken
        · cases taken
        · rename_i answered
          cases taken
          exact .recordMissed recording answered
        · rename_i answered
          cases taken
          exact .recorded recording answered
      · cases taken
  | commitRecord p =>
      simp only [step] at taken
      split at taken
      · rename_i isRecorded
        cases taken
        exact .recordCommitted isRecorded
      · cases taken
  | view p outboxId =>
      simp only [step] at taken
      split at taken
      · rename_i idle found
        split at taken
        · rename_i dead
          cases taken
          exact .viewed idle found dead
        · cases taken
      · cases taken
  | selectDead p now outboxId =>
      simp only [step, Option.map_eq_some_iff] at taken
      obtain ⟨rows, loads, rfl⟩ := taken
      exact .deadSelected loads
  | flush p =>
      simp only [step] at taken
      split at taken
      · rename_i flushing
        split at taken
        · cases taken
        · rename_i answered
          cases taken
          exact .flushMissed flushing answered
        · rename_i answered
          cases taken
          exact .flushed flushing answered
      · cases taken
  | commitRequeue p =>
      simp only [step] at taken
      split at taken
      · rename_i flushing
        cases taken
        exact .requeueCommitted flushing
      · cases taken
  | stop p =>
      cases taken
      exact .stopped

/-- What a billing transaction does to the outbox: at most one row is added. -/
theorem BillingTxn.outbox
    {view db db' : Db}
    {txn : BillingTxn}
    (ran : exec (txn.body view) db = (.ok (), db')) :
    db'.billingOutbox = db.billingOutbox ∨
      ∃ env account receiptId amountCents principalId newId,
        db.billingOutbox.insert?
            (pendingOutbox env account receiptId amountCents principalId
              newId) =
          some db'.billingOutbox := by
  cases txn with
  | createPrincipal pubkeyHex accountId newAccountId newId =>
      left
      obtain ⟨principal, created⟩ := map_ok ran
      obtain ⟨chosen, accountDb, accountRun, afterAccount⟩ := bind_ok created.1
      have opened : accountDb.billingOutbox = db.billingOutbox := by
        cases accountId with
        | some given =>
            cases accountRun
            rfl
        | none =>
            obtain ⟨_, _, addRun, afterAdd⟩ := bind_ok accountRun
            obtain ⟨_, _, rfl⟩ := addRow_ok addRun
            cases afterAdd
            rfl
      obtain ⟨_, _, readRun, afterRead⟩ := bind_ok afterAccount
      cases readRun
      obtain ⟨_, _, present, afterPresent⟩ := bind_ok afterRead
      obtain ⟨_, rfl⟩ := orRaise_ok present
      obtain ⟨_, _, addRun, afterAdd⟩ := bind_ok afterPresent
      obtain ⟨_, _, rfl⟩ := addRow_ok addRun
      cases afterAdd
      exact opened
  | attachStripeCustomer accountId stripeCustomerId =>
      left
      obtain ⟨_, _, present, afterPresent⟩ := bind_ok ran
      obtain ⟨_, rfl⟩ := orRaise_ok present
      obtain ⟨_, _, readRun, afterRead⟩ := bind_ok afterPresent
      cases readRun
      obtain ⟨_, _, uniqueRun, linkRun⟩ := bind_ok afterRead
      obtain ⟨_, rfl⟩ := raiseWhen_ok uniqueRun
      cases linkRun
      rfl
  | applyStripeEvent customerId status =>
      left
      simp only [BillingTxn.body, Crossing.applyStripeEvent] at ran
      split at ran
      · cases ran
        rfl
      · cases ran
        rfl
  | enqueue env receiptId amountCents principalId newId =>
      obtain ⟨row, enqueued⟩ := map_ok ran
      rcases enqueue_ok enqueued.1 with ⟨rfl, _⟩ | ⟨outbox, _, inserted, rfl⟩
      · exact .inl rfl
      · exact .inr ⟨_, _, _, _, _, _, inserted⟩

end Crossing

import Crossing.Billing
import Crossing.RowLocks
import Crossing.TransitionRun

namespace Crossing

open Relational

/-!
# The processes that write the outbox

`drain_outbox` and `requeue_dead` cut into single statements, as any number of
processes run them on one database under READ COMMITTED.  A statement sees the
rows that are committed when it starts, and the rows its own transaction has
written.  A clock is read where the source reads it, and nothing is assumed of
the readings.  A process may stop between any two statements, and its open
transaction is rolled back.

Rows are added by `enqueue`, whose transaction nobody sees before its commit.
-/

/-! ## Requests to Stripe -/

/-- How a request to Stripe ends. -/
inductive StripeResponse where
  | accepted
  | rejected (statusCode : Nat)
  | raised (exception : String)
  deriving Repr, DecidableEq

/--
`post_stripe`, with the exception that its caller turns into a result.
`configured` says whether the key is set.
-/
def postStripe
    (configured : Bool)
    (payload : OutboxPayload)
    (response : StripeResponse) :
    StripeResult :=
  if configured = false then
    .noop
  else
    match truthy payload.customerId with
    | none => .failed "no stripe customer"
    | some _ =>
        match response with
        | .accepted => .ok
        | .rejected statusCode => .failed s!"http {statusCode}"
        | .raised exception => .failed exception

/-- `LEASE_SECONDS`. -/
def defaultLeaseSeconds : Int := 30

/-- `lease_seconds`; `raw` is the variable when it parses as an integer. -/
def leaseSeconds (raw : Option Int) : Int :=
  max 1 (raw.getD defaultLeaseSeconds)

/-! ## Writes to one row -/

/-- The SET clause of a claim. -/
def claimedRow (now : Int) (row : Outbox) : Outbox :=
  { row with status := .sending, claimedAt := some now }

/-- The `stale` instant of a claim. -/
def staleAt (now lease : Int) : Int :=
  now - lease * microsPerSecond

/-- The status that `_terminal_values` sets. -/
def terminalStatus (attemptsAfter : Nat) : StripeResult → OutboxStatus
  | .noop => .noop
  | .ok => .sent
  | .failed _ => if attemptsAfter ≥ maxAttempts then .dead else .failed

/--
The flush of `requeue_dead`: the columns of the loaded row that were changed
are written, whatever the stored row holds.
-/
def requeuedRow (now : Int) (loaded row : Outbox) : Outbox :=
  { row with
    status := if loaded.status = .pending then row.status else .pending
    attempts := if loaded.attempts = 0 then row.attempts else 0
    nextAttemptAt :=
      if loaded.nextAttemptAt = some now then
        row.nextAttemptAt
      else
        some now
    claimedAt := if loaded.claimedAt = none then row.claimedAt else none }

/-! ## Processes -/

/--
A claimed row in the job list of `drain_outbox`.  `claim` numbers the claiming
transaction; `cached` is the object of the session while it is not expired.
-/
structure Job where
  id : Id
  payload : OutboxPayload
  claim : Nat
  cached : Option Outbox
  deriving Repr, DecidableEq

/-- The job of a row as the claiming transaction has left it. -/
def Job.ofRow (claim : Nat) (row : Outbox) : Job where
  id := row.id
  payload := row.payloadJson
  claim := claim
  cached := some row

/-- `session.expire_all()`, or the end of a transaction that is rolled back. -/
def Job.expired (job : Job) : Job :=
  { job with cached := none }

/-- The next statement of a process, and what it holds in memory. -/
inductive Process where
  | idle
  | selecting (now lease : Int) (limit : Nat)
  | claiming (now lease : Int) (left claimed : List Id)
  | posting (job : Job) (rest : List Job)
  | loading (job : Job) (result : StripeResult) (rest : List Job)
  | recording
      (seen : Outbox)
      (job : Job)
      (result : StripeResult)
      (rest : List Job)
  | recorded
      (job : Job)
      (result : StripeResult)
      (now : Int)
      (attemptsAfter : Nat)
      (rest : List Job)
  | viewing (held : Outbox)
  | flushing (now : Int) (left flushed : List Outbox)
  deriving Repr, DecidableEq

namespace Process

/-- The next job of a drain, or its end. -/
def next : List Job → Process
  | [] => .idle
  | job :: rest => .posting job rest

/-- The next job once the objects of the session have expired. -/
def afterJob (rest : List Job) : Process :=
  next (rest.map Job.expired)

/-- The row that a process writes back next. -/
def flushes : Process → Option Id
  | .flushing _ (loaded :: _) _ => some loaded.id
  | _ => none

/-- The rows that the open transaction of a process has written. -/
def openRows : Process → List Id
  | .claiming _ _ _ claimed => claimed
  | .recorded job _ _ _ _ => [job.id]
  | .flushing _ _ flushed => flushed.map Outbox.id
  | _ => []

end Process

/-! ## The system -/

/-- What a committed statement or a request leaves in the log. -/
inductive OutboxEntry where
  | claimed (id : Id) (claim : Nat) (claimedAt lease : Int)
  | posted (id : Id) (claim : Nat) (result : StripeResult)
  | recorded
      (id : Id)
      (claim : Nat)
      (recordedAt : Int)
      (attempts : Nat)
      (status : OutboxStatus)
  | requeued (id : Id)
  deriving Repr, DecidableEq

/-- The row that an entry is about. -/
def OutboxEntry.row : OutboxEntry → Id
  | .claimed id _ _ _ => id
  | .posted id _ _ => id
  | .recorded id _ _ _ _ => id
  | .requeued id => id

/-- Is the entry a request to Stripe? -/
def OutboxEntry.isPost : OutboxEntry → Bool
  | .posted .. => true
  | _ => false

/-- The transactions that add outbox rows or change what Stripe needs. -/
inductive BillingTxn where
  | createPrincipal
      (pubkeyHex : Option String)
      (accountId : Option Id)
      (newAccountId newId : Id)
  | attachStripeCustomer (accountId : Id) (stripeCustomerId : String)
  | applyStripeEvent (customerId status : String)
  | enqueue
      (env : Env)
      (receiptId : Id)
      (amountCents : Cents)
      (principalId newId : Id)

/-- The body of such a transaction. -/
def BillingTxn.body (view : Db) : BillingTxn → Body Unit
  | .createPrincipal pubkeyHex accountId newAccountId newId =>
      (fun _ => ()) <$>
        Crossing.createPrincipal pubkeyHex accountId newAccountId newId
  | .attachStripeCustomer accountId stripeCustomerId =>
      Crossing.attachStripeCustomer view accountId stripeCustomerId
  | .applyStripeEvent customerId status =>
      Crossing.applyStripeEvent view customerId status
  | .enqueue env receiptId amountCents principalId newId =>
      (fun _ => ()) <$>
        Crossing.enqueue env receiptId amountCents principalId newId

/-- The committed rows, the row locks and the processes. -/
structure OutboxSys where
  db : Db
  locks : Locks Outbox Nat
  processes : Nat → Process
  claims : Nat
  log : List OutboxEntry

namespace OutboxSys

/-- Before the first transaction. -/
def start : OutboxSys where
  db := Db.empty
  locks := .free
  processes _ := .idle
  claims := 0
  log := []

/-- The committed row. -/
def row (s : OutboxSys) (id : Id) : Option Outbox :=
  s.db.billingOutbox.find id

/-- A process goes on. -/
def become (s : OutboxSys) (p : Nat) (process : Process) : OutboxSys :=
  { s with processes := Function.update s.processes p process }

/-- An UPDATE has written a row. -/
def wrote (s : OutboxSys) (p : Nat) (new : Outbox) : OutboxSys :=
  { s with locks := s.locks.write p new }

/-- The transaction of a process is committed. -/
def commit (s : OutboxSys) (p : Nat) (entries : List OutboxEntry) :
    OutboxSys :=
  { s with
    db :=
      { s.db with billingOutbox := s.locks.publish s.db.billingOutbox p }
    locks := s.locks.release p
    log := s.log ++ entries }

/-- The transaction of a process is rolled back. -/
def rollback (s : OutboxSys) (p : Nat) : OutboxSys :=
  { s with locks := s.locks.release p }

/-- Append to the log. -/
def record (s : OutboxSys) (entry : OutboxEntry) : OutboxSys :=
  { s with log := s.log ++ [entry] }

/-- The dead rows that `requeue_dead` selects, in the order of their ids. -/
def deadRows (s : OutboxSys) (outboxId : Option Id) : List Outbox :=
  (s.db.billingOutbox.rows.filter fun row =>
    row.status = .dead && outboxId.all (· = row.id)).insertionSort
      fun first second => first.id ≤ second.id

end OutboxSys

/-- One statement, one request or one clock reading of a process. -/
inductive OutboxAction where
  | txn (txn : BillingTxn)
  | begin (p : Nat) (now : Int) (raw : Option Int) (limit : Nat)
  | select (p : Nat) (ids : List Id)
  | claim (p : Nat)
  | commitClaims (p : Nat)
  | post (p : Nat) (configured : Bool) (response : StripeResponse)
  | load (p : Nat)
  | record (p : Nat) (now : Int)
  | commitRecord (p : Nat)
  | view (p : Nat) (outboxId : Id)
  | selectDead (p : Nat) (now : Int) (outboxId : Option Id)
  | flush (p : Nat)
  | commitRequeue (p : Nat)
  | stop (p : Nat)

namespace OutboxSys

/-- What `SELECT id … LIMIT` without an order may return. -/
def Selects
    (s : OutboxSys)
    (now lease : Int)
    (limit : Nat)
    (ids : List Id) :
    Prop :=
  ids.Nodup ∧
    (∀ id ∈ ids, (s.row id).any (claimable now (staleAt now lease)) = true) ∧
    ids.length =
      min limit
        (s.db.billingOutbox.rows.filter
          (claimable now (staleAt now lease))).length

instance
    (s : OutboxSys)
    (now lease : Int)
    (limit : Nat)
    (ids : List Id) :
    Decidable (s.Selects now lease limit ids) :=
  inferInstanceAs (Decidable (_ ∧ _))

/-- The rows that a requeue loads, by the CLI or by the route after its read. -/
def loaded (s : OutboxSys) (outboxId : Option Id) :
    Process → Option (List Outbox)
  | .idle => some (s.deadRows outboxId)
  | .viewing held =>
      -- The row is selected again; the session keeps the object it has.
      if (s.row held.id).any (fun row => row.status = .dead) then
        some [held]
      else
        some []
  | _ => none

/-- The state after an action, when the action is possible. -/
def step (s : OutboxSys) : OutboxAction → Option OutboxSys
  | .txn txn =>
      (Transaction.commit (txn.body s.db) s.db).map fun (_, db) =>
        { s with db := db }
  | .begin p now raw limit =>
      match s.processes p with
      | .idle => some (s.become p (.selecting now (leaseSeconds raw) limit))
      | _ => none
  | .select p ids =>
      match s.processes p with
      | .selecting now lease limit =>
          if s.Selects now lease limit ids then
            some (s.become p (.claiming now lease ids []))
          else
            none
      | _ => none
  | .claim p =>
      match s.processes p with
      | .claiming now lease (id :: left) claimed =>
          match
            s.locks.update s.db.billingOutbox p id
              (claimable now (staleAt now lease)) (claimedRow now)
          with
          | .waits => none
          | .missed => some (s.become p (.claiming now lease left claimed))
          | .wrote _ new =>
              some
                ((s.wrote p new).become p
                  (.claiming now lease left (claimed ++ [id])))
      | _ => none
  | .commitClaims p =>
      match s.processes p with
      | .claiming now lease [] claimed =>
          let rows := claimed.filterMap (s.locks.read s.db.billingOutbox p)
          let entries := claimed.map fun id =>
            OutboxEntry.claimed id s.claims now lease
          some
            { (s.commit p entries).become p
                (.next (rows.map (Job.ofRow s.claims))) with
              claims := s.claims + 1 }
      | _ => none
  | .post p configured response =>
      match s.processes p with
      | .posting job rest =>
          let result := postStripe configured job.payload response
          some
            ((s.record (.posted job.id job.claim result)).become p
              (.loading job result rest))
      | _ => none
  | .load p =>
      match s.processes p with
      | .loading job result rest =>
          match job.cached.or (s.row job.id) with
          | none => some (s.become p (.afterJob rest))
          | some seen =>
              if seen.status = .sending then
                some (s.become p (.recording seen job result rest))
              else
                some (s.become p (.afterJob rest))
      | _ => none
  | .record p now =>
      match s.processes p with
      | .recording seen job result rest =>
          match
            s.locks.update s.db.billingOutbox p job.id
              (fun row => row.status = .sending)
              (terminalValues now (seen.attempts + 1) result)
          with
          | .waits => none
          | .missed => some (s.become p (.afterJob rest))
          | .wrote _ new =>
              some
                ((s.wrote p new).become p
                  (.recorded job result now (seen.attempts + 1) rest))
      | _ => none
  | .commitRecord p =>
      match s.processes p with
      | .recorded job result now attemptsAfter rest =>
          let entry :=
            OutboxEntry.recorded job.id job.claim now attemptsAfter
              (terminalStatus attemptsAfter result)
          some ((s.commit p [entry]).become p (.afterJob rest))
      | _ => none
  | .view p outboxId =>
      match s.processes p, s.row outboxId with
      | .idle, some held =>
          if held.status = .dead then
            some (s.become p (.viewing held))
          else
            none
      | _, _ => none
  | .selectDead p now outboxId =>
      (s.loaded outboxId (s.processes p)).map fun rows =>
        s.become p (.flushing now rows [])
  | .flush p =>
      match s.processes p with
      | .flushing now (loaded :: left) flushed =>
          match
            s.locks.update s.db.billingOutbox p loaded.id (fun _ => true)
              (requeuedRow now loaded)
          with
          | .waits => none
          | .missed => some ((s.rollback p).become p .idle)
          | .wrote _ new =>
              some
                ((s.wrote p new).become p
                  (.flushing now left (flushed ++ [loaded])))
      | _ => none
  | .commitRequeue p =>
      match s.processes p with
      | .flushing _ [] flushed =>
          let entries := flushed.map fun row => OutboxEntry.requeued row.id
          some ((s.commit p entries).become p .idle)
      | _ => none
  | .stop p => some ((s.rollback p).become p .idle)

/-- A step whose action is among the allowed ones. -/
def Step
    (allowed : OutboxSys → OutboxAction → Prop)
    (s s' : OutboxSys) :
    Prop :=
  ∃ action, allowed s action ∧ step s action = some s'

/-- The states of all runs made of allowed actions. -/
abbrev Reachable (allowed : OutboxSys → OutboxAction → Prop) :
    OutboxSys → Prop :=
  Transition.Reachable (· = start) (Step allowed)

/-- The states that runs made of allowed actions lead to. -/
abbrev Later (allowed : OutboxSys → OutboxAction → Prop) :
    OutboxSys → OutboxSys → Prop :=
  Transition.Later (Step allowed)

end OutboxSys

end Crossing

import Crossing.Evolution

namespace Crossing

open Relational
open Relational.Transaction

/-!
# What one transaction can do

`Effect` lists every change that a committed transaction makes to the database,
together with the log entries of that change.  Every invariant is proved over
these cases, never over the functions themselves.

How much is known of a change depends on how the ledger is called.  A
`Discipline` says which rules the callers keep, and the facts that rest on a
rule are stated under it.
-/

/-- The rules that the callers of a run keep. -/
structure Discipline where
  /--
  Finalizers get the reservation of the attempt, receipts are made out to it,
  and the low-level transitions are not called.
  -/
  paired : Prop
  /-- Finalizers get callbacks that bill the attempt as it was reserved. -/
  metered : Prop
  /-- `finalize_release` is called with its default statuses. -/
  defaultRelease : Prop
  /-- Attempts are opened by `invoke`. -/
  byInvoke : Prop
  /-- Results are stored by `invoke` and reconciliation goes over the API. -/
  viaApi : Prop
  /-- `finalize_success` is called by the `invoke` call of the attempt. -/
  ownFinalize : Prop

/-- What runs a transaction: a direct call, or `invoke`, which finishes last. -/
inductive Origin where
  | txn (txn : Txn)
  | call
  | finish (invocation : Id)

/-- The mandate is what an `issue_mandate` call asks for. -/
def Origin.Asks (origin : Origin) (mandate : Mandate) : Prop :=
  ∃ now debitNow args newId freshNonce,
    origin = .txn (.issueMandate now debitNow args newId freshNonce) ∧
      mandate.parentMandateId = args.parentMandateId ∧
      mandate.toolsList = args.tools ∧
      mandate.serversList = args.servers

/-- No rule is kept. -/
def Discipline.free : Discipline where
  paired := False
  metered := False
  defaultRelease := False
  byInvoke := False
  viaApi := False
  ownFinalize := False

/-- A receipt that the callbacks issue is made out to the attempt. -/
def Addressed
    (callbacks : FinalizeCallbacks)
    (invocation : Invocation) :
    Prop :=
  ∀ args, callbacks.receiptFn = some args →
    args.reservationId = invocation.reservationId

/-- Receipts depend on the columns of an attempt that do not change. -/
theorem Addressed.same
    {callbacks : FinalizeCallbacks}
    {old new : Invocation}
    (addressed : Addressed callbacks old)
    (same : old.SameAttempt new) :
    Addressed callbacks new := by
  rw [same]
  exact addressed

/-- The callbacks bill an attempt as it was reserved. -/
structure Bills
    (callbacks : FinalizeCallbacks)
    (invocation : Invocation) :
    Prop where
  receipt :
    ∃ args, callbacks.receiptFn = some args ∧
      args.reservationId = invocation.reservationId ∧
      args.principalId = invocation.principalId ∧
      args.amountCents = invocation.amountCents
  billing :
    ∃ args, callbacks.billingFn = some args ∧
      args.principalId = invocation.principalId ∧
      args.amountCents = invocation.amountCents

/-- Billing depends on the columns of an attempt that do not change. -/
theorem Bills.same
    {callbacks : FinalizeCallbacks}
    {old new : Invocation}
    (bills : Bills callbacks old)
    (same : old.SameAttempt new) :
    Bills callbacks new := by
  rw [same]
  exact ⟨bills.receipt, bills.billing⟩

/-- Callbacks that bill an attempt make its receipt out to it. -/
theorem Bills.addressed
    {callbacks : FinalizeCallbacks}
    {invocation : Invocation}
    (bills : Bills callbacks invocation) :
    Addressed callbacks invocation := by
  obtain ⟨args, isReceiptFn, ofReservation, _⟩ := bills.receipt
  intro given isGiven
  cases isReceiptFn.symm.trans isGiven
  exact ofReservation

/-- The attempt was opened for the request. -/
structure Requested
    (env : Env)
    (invocation : Invocation)
    (request : InvokeRequest) :
    Prop where
  mandate : invocation.mandateId = request.mandateId
  tool : invocation.tool = request.tool
  server : invocation.server = request.server
  key : invocation.idempotencyKey = request.idempotencyKey
  hash : invocation.requestHash = some (requestFingerprint env request)

instance
    (env : Env)
    (invocation : Invocation)
    (request : InvokeRequest) :
    Decidable (Requested env invocation request) :=
  decidable_of_iff
    (invocation.mandateId = request.mandateId ∧
      invocation.tool = request.tool ∧
      invocation.server = request.server ∧
      invocation.idempotencyKey = request.idempotencyKey ∧
      invocation.requestHash = some (requestFingerprint env request))
    ⟨fun ⟨mandate, tool, server, key, hash⟩ =>
        ⟨mandate, tool, server, key, hash⟩,
      fun ⟨mandate, tool, server, key, hash⟩ =>
        ⟨mandate, tool, server, key, hash⟩⟩

/-- The moves of an open attempt that keep it open. -/
inductive Move : InvocationStatus → InvocationStatus → Prop where
  | execute : Move .reserved .executing
  | fail : Move .executing .executedFail
  | lose
      {status : InvocationStatus}
      (inFlight : status ∈ [InvocationStatus.reserved, .executing]) :
      Move status .ambiguous

/-- What a move leaves in the log. -/
def moveEntries (invocation : Id) : InvocationStatus → List Entry
  | .executing => [.executing invocation]
  | _ => []

/-- How an attempt reaches success, and on which evidence. -/
inductive SuccessVia
    (env : Env)
    (discipline : Discipline)
    (origin : Origin)
    (callbacks : FinalizeCallbacks)
    (invocation : Invocation) :
    InvocationStatus →
      (Option Receipt → Option InvokeResult) →
      List ReconciliationEvent →
      Prop where
  | finalized
      (fromStatus :
        invocation.status ∈ [InvocationStatus.executing, .executedOk])
      (stores :
        discipline.viaApi →
          ∃ built, callbacks.resultFn = some built ∧ built.ok = true)
      (byCall : discipline.ownFinalize → origin = .finish invocation.id) :
      SuccessVia env discipline origin callbacks invocation .committed
        (callbacks.payload env) []
  | reconciled
      {event : ReconciliationEvent}
      (fromStatus : invocation.status ∈ reconcileFrom)
      (ofAttempt : event.invocationId = invocation.id)
      (toStatus : event.toStatus = .reconciledCommitted)
      (kind : event.evidenceKind = .didExecute)
      (stores : discipline.viaApi → callbacks.resultJson = none) :
      SuccessVia env discipline origin callbacks invocation .reconciledCommitted
        (fun _ => callbacks.resultJson) [event]

/-- How an attempt is released, and on which evidence. -/
inductive ReleaseVia
    (discipline : Discipline)
    (invocation : Invocation) :
    InvocationStatus → List ReconciliationEvent → Prop where
  | finalized
      (fromStatus :
        discipline.defaultRelease → invocation.status = .reserved) :
      ReleaseVia discipline invocation .released []
  | reconciled
      {event : ReconciliationEvent}
      (fromStatus : invocation.status ∈ reconcileFrom)
      (ofAttempt : event.invocationId = invocation.id)
      (toStatus : event.toStatus = .reconciledReleased)
      (kind : event.evidenceKind = .didNotExecute) :
      ReleaseVia discipline invocation .reconciledReleased [event]

/-- A mandate that `issue_mandate` has inserted. -/
structure Issued
    (db : Db)
    (mandate : Mandate)
    (mandates : Table Mandate) :
    Prop where
  inserted : db.mandates.insert? mandate = some mandates
  full : mandate.remainingCents = mandate.spendLimitCents
  unused : mandate.callsUsed = 0
  nonnegative : 0 ≤ mandate.spendLimitCents
  ofAgent :
    ∃ agent, db.agents.find mandate.agentId = some agent ∧
      agent.principalId = mandate.principalId

/-- The parent row after the escrow of a child's limit. -/
def escrowed (limit : Cents) (parent : Mandate) : Mandate :=
  { parent with remainingCents := parent.remainingCents - limit }

/-- The columns of an outbox row that the drain leaves alone. -/
def Outbox.bill (row : Outbox) : Id × OutboxPayload :=
  (row.receiptId, row.payloadJson)

/--
The change and the log entries of one committed transaction.  `origin` is what
ran it.
-/
inductive Effect
    (env : Env)
    (discipline : Discipline)
    (origin : Origin)
    (db : Db) :
    List Entry → Db → Prop where
  | booked (tasks : Table Task) (usedNonces : Table UsedNonce) :
      Effect env discipline origin db []
        { db with tasks := tasks, usedNonces := usedNonces }
  | registered
      {accounts : Table Account}
      {principal : Principal}
      {principals : Table Principal}
      (opening :
        accounts = db.accounts ∨
          ∃ account,
            account.feeMicrocents = 0 ∧
              account.feeInvoicedCents = 0 ∧
              db.accounts.insert? account = some accounts)
      (ofAccount : ∃ account, accounts.find principal.accountId = some account)
      (inserted : db.principals.insert? principal = some principals) :
      Effect env discipline origin db []
        { db with accounts := accounts, principals := principals }
  | agentAdded
      {agent : Agent}
      {agents : Table Agent}
      (inserted : db.agents.insert? agent = some agents)
      (live : agent.revoked = false)
      (ofPrincipal :
        ∃ principal, db.principals.find agent.principalId = some principal)
      (belowParent :
        ∀ parentId, agent.parentId = some parentId →
          ∃ parent, db.agents.find parentId = some parent)
      (created :
        ∃ principalId newId,
          origin = .txn (.createAgent principalId agent.parentId newId)) :
      Effect env discipline origin db [] { db with agents := agents }
  | agentsRevoked
      {agentId : Id}
      (visited : List Id)
      (revokes : ∃ fuel, origin = .txn (.revokeAgent fuel agentId)) :
      Effect env discipline origin db [.agentRevoked agentId]
        { db with agents := revokeAll db.agents (agentId :: visited) }
  | relinked
      {account : Account}
      (customer status : Option String)
      (found : db.accounts.find account.id = some account) :
      Effect env discipline origin db []
        { db with
          accounts :=
            db.accounts.put
              { account with
                stripeCustomerId := customer
                stripeStatus := status } }
  | drained
      {outbox : Table Outbox}
      (sameBills :
        outbox.rows.map Outbox.bill = db.billingOutbox.rows.map Outbox.bill) :
      Effect env discipline origin db [] { db with billingOutbox := outbox }
  | denied
      {event : LedgerEvent}
      (isDeny : event.kind = .deny)
      (tasks : Table Task)
      (usedNonces : Table UsedNonce) :
      Effect env discipline origin db []
        { db with
          tasks := tasks
          usedNonces := usedNonces
          ledgerEvents := db.ledgerEvents ++ [event] }
  | issuedRoot
      {mandate : Mandate}
      {mandates : Table Mandate}
      (issued : Issued db mandate mandates)
      (root : mandate.parentMandateId = none)
      (usedNonces : Table UsedNonce)
      (asked : origin.Asks mandate) :
      Effect env discipline origin db []
        { db with usedNonces := usedNonces, mandates := mandates }
  | issuedChild
      {mandate parent : Mandate}
      {mandates : Table Mandate}
      {event : LedgerEvent}
      (issued : Issued db mandate mandates)
      (parentFound : db.mandates.find parent.id = some parent)
      (link : mandate.parentMandateId = some parent.id)
      (covered : mandate.spendLimitCents ≤ parent.remainingCents)
      (attenuated :
        subset mandate.toolsList parent.toolsList = true ∧
          subset mandate.serversList parent.serversList = true)
      (isEscrow :
        event.kind = .escrow ∧
          event.mandateId = parent.id ∧
          event.amountCents = mandate.spendLimitCents)
      (usedNonces : Table UsedNonce)
      (asked : origin.Asks mandate)
      (balance :
        event.remainingAfter =
          some (escrowed mandate.spendLimitCents parent).remainingCents) :
      Effect env discipline origin db []
        { db with
          usedNonces := usedNonces
          mandates := mandates.put (escrowed mandate.spendLimitCents parent)
          ledgerEvents := db.ledgerEvents ++ [event] }
  | mandateRevoked (mandateId : Id) :
      Effect env discipline origin db []
        { db with
          mandates := db.mandates.modify mandateId fun row =>
            { row with revoked := true } }
  | reservedOnly
      {old : Mandate}
      {reservation : Reservation}
      {reservations : Table Reservation}
      (lowLevel : ¬ discipline.paired)
      (debit : Debit db old reservation reservations)
      (taskId : Option Id) :
      Effect env discipline origin db []
        { db with
          mandates := db.mandates.put (debited reservation.amountCents old)
          reservations := reservations
          ledgerEvents := db.ledgerEvents ++
            [reservationEvent reservation .reserve
              (some (debited reservation.amountCents old).remainingCents)
              taskId] }
  | opened
      {old : Mandate}
      {reservation : Reservation}
      {invocation : Invocation}
      {reservations : Table Reservation}
      {invocations : Table Invocation}
      {claims : Table IdempotencyRecord}
      (opening :
        Opened db old reservation invocation reservations invocations claims)
      (taskId : Option Id)
      (tasks : Table Task)
      (usedNonces : Table UsedNonce)
      (requested :
        discipline.byInvoke →
          ∃ request, Requested env invocation request) :
      Effect env discipline origin db [.reserved invocation.id]
        { openedDb db old reservation taskId reservations invocations claims
          with
          tasks := tasks
          usedNonces := usedNonces }
  | moved
      {invocation : Invocation}
      {toStatus : InvocationStatus}
      (found : db.invocations.find invocation.id = some invocation)
      (move : Move invocation.status toStatus) :
      Effect env discipline origin db (moveEntries invocation.id toStatus)
        (movedDb db invocation toStatus)
  | settled
      {callbacks : FinalizeCallbacks}
      {payload : Option Receipt → Option InvokeResult}
      {reservation : Reservation}
      {invocation : Invocation}
      {toStatus : InvocationStatus}
      {receipt : Option Receipt}
      {receipts : Table Receipt}
      {outbox : Table Outbox}
      {accounts : Table Account}
      {claims : Table IdempotencyRecord}
      {evidence : List ReconciliationEvent}
      (settling :
        Settled env callbacks payload db reservation invocation receipt
          receipts outbox accounts claims)
      (via :
        SuccessVia env discipline origin callbacks invocation toStatus payload
          evidence)
      (pairing :
        discipline.paired →
          invocation.reservationId = some reservation.id ∧
            Addressed callbacks invocation)
      (metering : discipline.metered → Bills callbacks invocation)
      (remaining : Option Cents) :
      Effect env discipline origin db (evidence.map .reconciled)
        (settledDb db reservation invocation toStatus remaining receipts
          outbox accounts claims evidence)
  | resettled
      {callbacks : FinalizeCallbacks}
      {reservation : Reservation}
      {invocation : Invocation}
      {receipts : Table Receipt}
      {outbox : Table Outbox}
      {accounts : Table Account}
      {claims : Table IdempotencyRecord}
      {event : ReconciliationEvent}
      (resettling :
        Resettled env callbacks db reservation invocation accounts claims)
      (via :
        SuccessVia env discipline origin callbacks invocation
          .reconciledCommitted (fun _ => callbacks.resultJson) [event])
      (pairing :
        discipline.paired →
          invocation.reservationId = some reservation.id) :
      Effect env discipline origin db [.reconciled event]
        (resettledDb db invocation receipts outbox accounts claims event)
  | released
      {reservation : Reservation}
      {invocation : Invocation}
      {toStatus : InvocationStatus}
      {claims : Table IdempotencyRecord}
      {evidence : List ReconciliationEvent}
      (releasing : Released db reservation invocation claims)
      (via : ReleaseVia discipline invocation toStatus evidence)
      (pairing :
        discipline.paired →
          invocation.reservationId = some reservation.id)
      (remaining : Option Cents)
      (taskId : Option Id)
      (balance : remaining = refundedRemaining db.mandates reservation) :
      Effect env discipline origin db (evidence.map .reconciled)
        (releasedDb db reservation invocation toStatus remaining taskId
          claims evidence)
  | committedOnly
      {reservation : Reservation}
      (lowLevel : ¬ discipline.paired)
      (found : db.reservations.find reservation.id = some reservation)
      (held : reservation.status = .held)
      (remaining : Option Cents)
      (taskId : Option Id)
      (ofCommit :
        ∃ given, origin = .txn (.commit given taskId)) :
      Effect env discipline origin db []
        (committedDb db reservation remaining taskId)
  | refundedOnly
      {reservation : Reservation}
      (lowLevel : ¬ discipline.paired)
      (found : db.reservations.find reservation.id = some reservation)
      (held : reservation.status = .held)
      (remaining : Option Cents)
      (taskId : Option Id)
      (balance : remaining = refundedRemaining db.mandates reservation) :
      Effect env discipline origin db []
        (refundedDb db reservation remaining taskId)

/-! ## What every effect keeps -/

/-- A fee keeps every account. -/
theorem Charged.extends_
    {env : Env}
    {accounts charged : Table Account}
    (fee : Charged env accounts charged) :
    accounts.Extends Account.SameAccount charged := by
  rcases fee with rfl | ⟨account, amountCents, rfl⟩
  · exact .refl Account.SameAccount.refl _
  · unfold feeCharged
    cases account with
    | none => exact .refl Account.SameAccount.refl _
    | some account =>
        by_cases free : feeMicrocentsFor env amountCents ≤ 0
        · simp only [free, ↓reduceIte]
          exact .refl Account.SameAccount.refl _
        · simp only [free, ↓reduceIte]
          refine .modify Account.SameAccount.refl ?_ ?_ _
          · intro row
            rfl
          · intro row
            exact ⟨rfl, rfl⟩

/-- Revocation keeps every agent. -/
theorem revokeAll_extends
    (agents : Table Agent)
    (ids : List Id) :
    agents.Extends Agent.SameAgent (revokeAll agents ids) := by
  induction ids generalizing agents with
  | nil =>
      exact .refl Agent.SameAgent.refl _
  | cons id rest inductionHypothesis =>
      have flagged :
          agents.Extends Agent.SameAgent
            (agents.modify id fun agent =>
              { agent with revoked := true }) := by
        refine .modify Agent.SameAgent.refl ?_ ?_ _
        · intro row
          rfl
        · intro row
          exact ⟨rfl, fun _ => rfl⟩
      exact .trans .trans flagged (inductionHypothesis _)

/-- A transition of an attempt keeps every attempt. -/
theorem moved_extends
    {invocations : Table Invocation}
    {invocation : Invocation}
    (found : invocations.find invocation.id = some invocation)
    (toStatus : InvocationStatus) :
    invocations.Extends Invocation.SameAttempt
      (invocations.put { invocation with status := toStatus }) :=
  .put Invocation.SameAttempt.refl found rfl

/-- After a transition an attempt is the moved one or another one. -/
theorem mem_moved
    {invocations : Table Invocation}
    {invocation row : Invocation}
    {toStatus : InvocationStatus}
    (member :
      row ∈ (invocations.put { invocation with status := toStatus }).rows) :
    row = { invocation with status := toStatus } ∨
      row ∈ invocations.rows ∧ row.id ≠ invocation.id :=
  Table.mem_put member

/-- A transition of a reservation keeps every reservation. -/
theorem transitioned_extends
    {reservations : Table Reservation}
    {reservation : Reservation}
    (found : reservations.find reservation.id = some reservation)
    (toStatus : ReservationStatus) :
    reservations.Extends Reservation.SameHold
      (reservations.put { reservation with status := toStatus }) :=
  .put Reservation.SameHold.refl found rfl

/-- A refund keeps every mandate. -/
theorem refunded_extends
    (mandates : Table Mandate)
    (reservation : Reservation) :
    mandates.Extends Mandate.SameTerms
      (refundedMandates mandates reservation) := by
  refine .modify Mandate.SameTerms.refl ?_ ?_ _
  · intro row
    rfl
  · intro row
    exact ⟨rfl, fun revoked => revoked⟩

/-- A debit keeps every mandate. -/
theorem Debit.extends_
    {db : Db}
    {old : Mandate}
    {reservation : Reservation}
    {reservations : Table Reservation}
    (debit : Debit db old reservation reservations) :
    db.mandates.Extends Mandate.SameTerms
      (db.mandates.put (debited reservation.amountCents old)) :=
  .put Mandate.SameTerms.refl debit.found
    ⟨rfl, fun revoked => revoked⟩

/-- Every committed transaction keeps the rows of the database. -/
theorem Effect.evolves
    {env : Env}
    {discipline : Discipline}
    {origin : Origin}
    {db db' : Db}
    {entries : List Entry}
    (effect : Effect env discipline origin db entries db') :
    Evolves db db' := by
  cases effect with
  | booked =>
      exact { Evolves.refl db with }
  | registered opening _ inserted =>
      refine { Evolves.refl db with accounts := ?_, principals := ?_ }
      · rcases opening with rfl | ⟨account, _, _, opened⟩
        · exact .refl Account.SameAccount.refl _
        · exact .insert Account.SameAccount.refl opened
      · exact .insert Eq.refl inserted
  | agentAdded inserted =>
      exact
        { Evolves.refl db with
          agents := .insert Agent.SameAgent.refl inserted }
  | agentsRevoked =>
      exact
        { Evolves.refl db with
          agents := revokeAll_extends _ _ }
  | relinked _ _ found =>
      exact
        { Evolves.refl db with
          accounts := .put Account.SameAccount.refl found ⟨rfl, rfl⟩ }
  | drained =>
      exact { Evolves.refl db with }
  | denied =>
      exact { Evolves.refl db with }
  | issuedRoot issued =>
      exact
        { Evolves.refl db with
          mandates := .insert Mandate.SameTerms.refl issued.inserted }
  | issuedChild issued parentFound =>
      refine { Evolves.refl db with mandates := ?_ }
      have stillFound :=
        Table.find_insert_of_some issued.inserted parentFound
      exact .trans .trans
        (.insert Mandate.SameTerms.refl issued.inserted)
        (.put Mandate.SameTerms.refl stillFound
          ⟨rfl, fun revoked => revoked⟩)
  | mandateRevoked mandateId =>
      refine { Evolves.refl db with mandates := ?_ }
      refine .modify Mandate.SameTerms.refl ?_ ?_ _
      · intro row
        rfl
      · intro row
        exact ⟨rfl, fun _ => rfl⟩
  | reservedOnly _ debit =>
      exact
        { Evolves.refl db with
          mandates := debit.extends_
          reservations :=
            .insert Reservation.SameHold.refl debit.inserted }
  | opened opening =>
      exact
        { Evolves.refl db with
          mandates := opening.debit.extends_
          reservations :=
            .insert Reservation.SameHold.refl opening.debit.inserted
          invocations :=
            .insert Invocation.SameAttempt.refl opening.inserted }
  | moved found =>
      exact
        { Evolves.refl db with
          invocations := moved_extends found _ }
  | settled settling =>
      exact
        { Evolves.refl db with
          accounts := settling.billingStep.charged.extends_
          reservations := transitioned_extends settling.reservationFound _
          invocations := moved_extends settling.invocationFound _ }
  | resettled resettling =>
      exact
        { Evolves.refl db with
          accounts := resettling.charged.extends_
          invocations := moved_extends resettling.invocationFound _ }
  | released releasing =>
      exact
        { Evolves.refl db with
          mandates := refunded_extends _ _
          reservations := transitioned_extends releasing.reservationFound _
          invocations := moved_extends releasing.invocationFound _ }
  | committedOnly _ found =>
      exact
        { Evolves.refl db with
          reservations := transitioned_extends found _ }
  | refundedOnly _ found =>
      exact
        { Evolves.refl db with
          mandates := refunded_extends _ _
          reservations := transitioned_extends found _ }

/-- A mandate that was issued by the transaction. -/
structure IssuedNow
    (origin : Origin)
    (db : Db)
    (mandate : Mandate) :
    Prop where
  ofAgent : ∃ agent, db.agents.find mandate.agentId = some agent
  ofParent :
    ∀ parentId, mandate.parentMandateId = some parentId →
      ∃ parent, db.mandates.find parentId = some parent ∧
        subset mandate.toolsList parent.toolsList = true ∧
        subset mandate.serversList parent.serversList = true
  asked : origin.Asks mandate

/-- A mandate was stored before the transaction or is issued by it. -/
theorem Effect.mandate_origin
    {env : Env}
    {discipline : Discipline}
    {origin : Origin}
    {db db' : Db}
    {entries : List Entry}
    (effect : Effect env discipline origin db entries db')
    {mandate : Mandate}
    (member : mandate ∈ db'.mandates.rows) :
    (∃ before, db.mandates.find mandate.id = some before) ∨
      IssuedNow origin db mandate := by
  have unchanged
      (inOld : mandate ∈ db.mandates.rows) :
      (∃ before, db.mandates.find mandate.id = some before) ∨
        IssuedNow origin db mandate :=
    .inl ⟨mandate, Table.find_of_mem inOld⟩
  have refunded
      (reservation : Reservation)
      (inNew :
        mandate ∈ (refundedMandates db.mandates reservation).rows) :
      (∃ before, db.mandates.find mandate.id = some before) ∨
        IssuedNow origin db mandate := by
    unfold refundedMandates at inNew
    exact .inl (Table.find_of_mem_modify inNew fun _ => rfl)
  cases effect with
  | issuedRoot issued root _ asked =>
      rcases (Table.mem_insert issued.inserted).mp member with inOld | rfl
      · exact unchanged inOld
      · obtain ⟨agent, found, _⟩ := issued.ofAgent
        refine
          .inr { ofAgent := ⟨agent, found⟩, ofParent := ?_, asked := asked }
        intro parentId link
        rw [root] at link
        cases link
  | @issuedChild given parent _ _ issued parentFound link _ attenuated _ _
      asked =>
      rcases Table.mem_put member with rfl | ⟨inNew, _⟩
      · exact .inl ⟨parent, parentFound⟩
      · rcases (Table.mem_insert issued.inserted).mp inNew with inOld | rfl
        · exact unchanged inOld
        · obtain ⟨agent, found, _⟩ := issued.ofAgent
          refine
            .inr
              { ofAgent := ⟨agent, found⟩, ofParent := ?_, asked := asked }
          intro parentId isParent
          cases link.symm.trans isParent
          exact ⟨parent, parentFound, attenuated.1, attenuated.2⟩
  | mandateRevoked =>
      exact .inl (Table.find_of_mem_modify member fun _ => rfl)
  | reservedOnly _ debit =>
      exact .inl (Table.find_of_mem_put member debit.found)
  | opened opening =>
      exact .inl (Table.find_of_mem_put member opening.debit.found)
  | released => exact refunded _ member
  | refundedOnly => exact refunded _ member
  | booked => exact unchanged member
  | registered => exact unchanged member
  | agentAdded => exact unchanged member
  | agentsRevoked => exact unchanged member
  | relinked => exact unchanged member
  | drained => exact unchanged member
  | denied => exact unchanged member
  | moved => exact unchanged member
  | settled => exact unchanged member
  | resettled => exact unchanged member
  | committedOnly => exact unchanged member

/-- A reservation that was made by the transaction. -/
structure ReservedNow
    (discipline : Discipline)
    (db : Db)
    (entries : List Entry)
    (reservation : Reservation) :
    Prop where
  ofMandate :
    ∃ mandate, db.mandates.find reservation.mandateId = some mandate ∧
      mandate.revoked = false
  opens : discipline.paired → ∃ invocation, entries = [.reserved invocation]

/-- A reservation was stored before the transaction or is made by it. -/
theorem Effect.reservation_origin
    {env : Env}
    {discipline : Discipline}
    {origin : Origin}
    {db db' : Db}
    {entries : List Entry}
    (effect : Effect env discipline origin db entries db')
    {reservation : Reservation}
    (member : reservation ∈ db'.reservations.rows) :
    (∃ before, db.reservations.find reservation.id = some before) ∨
      ReservedNow discipline db entries reservation := by
  have unchanged
      (inOld : reservation ∈ db.reservations.rows) :
      (∃ before, db.reservations.find reservation.id = some before) ∨
        ReservedNow discipline db entries reservation :=
    .inl ⟨reservation, Table.find_of_mem inOld⟩
  have reserved
      {old : Mandate}
      {given : Reservation}
      {reservations : Table Reservation}
      (debit : Debit db old given reservations)
      (opens :
        discipline.paired → ∃ invocation, entries = [.reserved invocation])
      (inNew : reservation ∈ reservations.rows) :
      (∃ before, db.reservations.find reservation.id = some before) ∨
        ReservedNow discipline db entries reservation := by
    rcases (Table.mem_insert debit.inserted).mp inNew with inOld | rfl
    · exact unchanged inOld
    · refine .inr { ofMandate := ?_, opens := opens }
      rw [debit.ofMandate]
      exact ⟨old, debit.found, debit.live⟩
  cases effect with
  | reservedOnly lowLevel debit =>
      exact reserved debit (fun paired => (lowLevel paired).elim) member
  | opened opening =>
      exact reserved opening.debit (fun _ => ⟨_, rfl⟩) member
  | settled settling =>
      exact .inl (Table.find_of_mem_put member settling.reservationFound)
  | released releasing =>
      exact .inl (Table.find_of_mem_put member releasing.reservationFound)
  | committedOnly _ found => exact .inl (Table.find_of_mem_put member found)
  | refundedOnly _ found => exact .inl (Table.find_of_mem_put member found)
  | booked => exact unchanged member
  | registered => exact unchanged member
  | agentAdded => exact unchanged member
  | agentsRevoked => exact unchanged member
  | relinked => exact unchanged member
  | drained => exact unchanged member
  | denied => exact unchanged member
  | issuedRoot => exact unchanged member
  | issuedChild => exact unchanged member
  | mandateRevoked => exact unchanged member
  | moved => exact unchanged member
  | resettled => exact unchanged member

end Crossing

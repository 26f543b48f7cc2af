import Crossing.Lifecycle
import Crossing.TransactionFrame

namespace Crossing

open Relational
open Relational.Transaction

/-!
# What the functions write for one principal

Each function that acts for a principal writes rows of that principal only, and
the platform fee of its account.  A `Scope` names the principal, its account,
and the rows that the function is given; `Confines` says that everything
outside stays as it is, whether the function returns or raises.
-/

/-- A principal with its account, and rows that are known to be its own. -/
structure Scope where
  accountId : Id
  principalId : Id
  agents : Set Id := ∅
  mandates : Set Id := ∅
  reservations : Set Id := ∅
  invocations : Set Id := ∅

/-- Some of the rows of a database, table by table. -/
structure Rows where
  accounts : List Account
  principals : List Principal
  agents : List Agent
  tasks : List Task
  mandates : List Mandate
  ledgerEvents : List LedgerEvent
  reservations : List Reservation
  receipts : List Receipt
  billingOutbox : List Outbox
  idempotencyRecords : List IdempotencyRecord
  usedNonces : List UsedNonce
  invocations : List Invocation

namespace Scope

/-- The rows of other principals and accounts. -/
def others (scope : Scope) (db : Db) : Rows where
  accounts := db.accounts.rows.filter (·.id ≠ scope.accountId)
  principals := db.principals.rows.filter (·.id ≠ scope.principalId)
  agents := db.agents.rows.filter (·.principalId ≠ scope.principalId)
  tasks := db.tasks.rows.filter (·.principalId ≠ scope.principalId)
  mandates := db.mandates.rows.filter (·.principalId ≠ scope.principalId)
  ledgerEvents := db.ledgerEvents.filter (·.principalId ≠ scope.principalId)
  reservations :=
    db.reservations.rows.filter (·.principalId ≠ scope.principalId)
  receipts := db.receipts.rows.filter (·.principalId ≠ scope.principalId)
  billingOutbox :=
    db.billingOutbox.rows.filter
      (·.payloadJson.principalId ≠ scope.principalId)
  idempotencyRecords :=
    db.idempotencyRecords.rows.filter (·.principalId ≠ scope.principalId)
  usedNonces := db.usedNonces.rows.filter (·.principalId ≠ scope.principalId)
  invocations :=
    db.invocations.rows.filter (·.principalId ≠ scope.principalId)

/-- The rows of the scope belong to its principal, and that to its account. -/
structure Holds (scope : Scope) (db : Db) : Prop where
  account :
    db.principals.OwnedBy Principal.accountId scope.accountId
      scope.principalId
  agents :
    ∀ id ∈ scope.agents,
      db.agents.OwnedBy Agent.principalId scope.principalId id
  mandates :
    ∀ id ∈ scope.mandates,
      db.mandates.OwnedBy Mandate.principalId scope.principalId id
  reservations :
    ∀ id ∈ scope.reservations,
      db.reservations.OwnedBy Reservation.principalId scope.principalId id
  invocations :
    ∀ id ∈ scope.invocations,
      db.invocations.OwnedBy Invocation.principalId scope.principalId id

/-- A body that writes inside the scope only. -/
abbrev Confines
    {α : Type}
    (scope : Scope)
    (body : Body α)
    (post : α → Prop) :
    Prop :=
  Keeps scope.Holds scope.others body post

/-! ## Single statements -/

/--
A table whose rows count as the principal's by one column: what is outside the
scope depends on its other rows only, and the scope goes on holding when the
table keeps the rows of the principal with it.
-/
structure Covers
    {ρ κ : Type}
    [Keyed ρ κ]
    [DecidableEq κ]
    (scope : Scope)
    (table : Db → Table ρ)
    (store : Db → Table ρ → Db)
    (owner : ρ → Id) :
    Prop where
  outside :
    ∀ db stored,
      stored.rows.filter (owner · ≠ scope.principalId) =
          (table db).rows.filter (owner · ≠ scope.principalId) →
        scope.others (store db stored) = scope.others db
  inside :
    ∀ db stored,
      (∀ k, (table db).OwnedBy owner scope.principalId k →
        stored.OwnedBy owner scope.principalId k) →
      scope.Holds db → scope.Holds (store db stored)

namespace Covers

variable
  {ρ κ : Type}
  [Keyed ρ κ]
  [DecidableEq κ]
  {scope : Scope}
  {table : Db → Table ρ}
  {store : Db → Table ρ → Db}
  {owner : ρ → Id}

/-- An insert of a row of the principal. -/
theorem add
    {row : ρ}
    (covers : scope.Covers table store owner)
    (own : owner row = scope.principalId) :
    scope.Confines (addRow table store row) fun _ => True := by
  intro db holds
  cases ran : exec (addRow table store row) db with
  | mk outcome db' =>
      cases outcome with
      | error exception =>
          obtain ⟨_, rfl⟩ := addRow_error ran
          exact ⟨rfl, holds, fun _ _ => trivial⟩
      | ok done =>
          obtain ⟨inserted, accepted, rfl⟩ := addRow_ok ran
          refine ⟨covers.outside _ _ ?_, covers.inside _ _ ?_ holds,
            fun _ _ => trivial⟩
          · exact Table.filter_insert accepted (by simp [own])
          · intro k owned
            exact owned.insert accepted own

/-- A `put` of a row of the principal over one of its rows. -/
theorem put
    {db : Db}
    {row : ρ}
    (covers : scope.Covers table store owner)
    (holds : scope.Holds db)
    (owned :
      (table db).OwnedBy owner scope.principalId (Keyed.key row))
    (own : owner row = scope.principalId) :
    scope.others (store db ((table db).put row)) = scope.others db ∧
      scope.Holds (store db ((table db).put row)) := by
  refine ⟨covers.outside _ _ ?_, covers.inside _ _ ?_ holds⟩
  · apply Table.filter_put
    · intro old found
      simp [owned old found]
    · simp [own]
  · intro k ownedThere
    exact ownedThere.put own

/-- A conditional update of a row of the principal. -/
theorem update
    {k : κ}
    {guard : ρ → Bool}
    {change : ρ → ρ}
    (covers : scope.Covers table store owner)
    (owned :
      ∀ db, scope.Holds db → (table db).OwnedBy owner scope.principalId k)
    (keepsKey : ∀ row, Keyed.key (change row) = Keyed.key row)
    (keepsOwner : ∀ row, owner (change row) = owner row) :
    scope.Confines (updateRow table store k guard change)
      fun answer => ∀ row, answer = some row →
        Keyed.key row = k ∧ owner row = scope.principalId := by
  intro db holds
  cases ran : exec (updateRow table store k guard change) db with
  | mk outcome db' =>
      cases outcome with
      | error exception =>
          simp only [updateRow, exec_bind, exec_get] at ran
          split at ran <;> cases ran
      | ok answer =>
          rcases updateRow_ok ran with
            ⟨rfl, rfl⟩ | ⟨old, found, _, rfl, rfl⟩
          · refine ⟨rfl, holds, ?_⟩
            intro value isValue row isRow
            cases isValue
            cases isRow
          · have isKey : Keyed.key (change old) = k :=
              (keepsKey old).trans (Table.key_of_find found)
            have own : owner (change old) = scope.principalId :=
              (keepsOwner old).trans (owned db holds old found)
            obtain ⟨same, holds'⟩ :=
              covers.put holds (isKey ▸ owned db holds) own
            refine ⟨same, holds', ?_⟩
            intro value isValue row isRow
            cases isValue
            cases isRow
            exact ⟨isKey, own⟩

end Covers

section Tables

variable {scope : Scope}

theorem covers_agents :
    scope.Covers Db.agents (fun db table => { db with agents := table })
      Agent.principalId where
  outside db stored same := by simp only [others, same]
  inside db stored keeps holds :=
    { holds with agents := fun id known => keeps id (holds.agents id known) }

theorem covers_tasks :
    scope.Covers Db.tasks (fun db table => { db with tasks := table })
      Task.principalId where
  outside db stored same := by simp only [others, same]
  inside db stored _ holds := { holds with }

theorem covers_mandates :
    scope.Covers Db.mandates storeMandates Mandate.principalId where
  outside db stored same := by simp only [others, same]
  inside db stored keeps holds :=
    { holds with
      mandates := fun id known => keeps id (holds.mandates id known) }

theorem covers_reservations :
    scope.Covers Db.reservations storeReservations
      Reservation.principalId where
  outside db stored same := by simp only [others, same]
  inside db stored keeps holds :=
    { holds with
      reservations := fun id known => keeps id (holds.reservations id known) }

theorem covers_receipts :
    scope.Covers Db.receipts (fun db table => { db with receipts := table })
      Receipt.principalId where
  outside db stored same := by simp only [others, same]
  inside db stored _ holds := { holds with }

theorem covers_billingOutbox :
    scope.Covers Db.billingOutbox
      (fun db table => { db with billingOutbox := table })
      (fun row => row.payloadJson.principalId) where
  outside db stored same := by simp only [others, same]
  inside db stored _ holds := { holds with }

theorem covers_idempotencyRecords :
    scope.Covers Db.idempotencyRecords storeClaims
      IdempotencyRecord.principalId where
  outside db stored same := by simp only [others, same]
  inside db stored _ holds := { holds with }

theorem covers_usedNonces :
    scope.Covers Db.usedNonces
      (fun db table => { db with usedNonces := table })
      UsedNonce.principalId where
  outside db stored same := by simp only [others, same]
  inside db stored _ holds := { holds with }

theorem covers_invocations :
    scope.Covers Db.invocations storeInvocations Invocation.principalId where
  outside db stored same := by simp only [others, same]
  inside db stored keeps holds :=
    { holds with
      invocations := fun id known => keeps id (holds.invocations id known) }

/-- An event of the principal. -/
theorem confines_appendEvent
    {event : LedgerEvent}
    (own : event.principalId = scope.principalId) :
    scope.Confines (appendEvent event) fun _ => True := by
  apply Keeps.modify
  intro db holds
  refine ⟨?_, { holds with }⟩
  simp [others, List.filter_append, own]

end Tables

section Functions

variable {scope : Scope}

/-! ## Identity and mandates -/

/-- `create_agent` writes an agent of the principal. -/
theorem confines_createAgent
    {views : Views}
    {principalId : Id}
    {parentId : Option Id}
    {newId : Id}
    (own : principalId = scope.principalId) :
    scope.Confines (createAgent views principalId parentId newId)
      fun _ => True := by
  have checks :
      scope.Confines (checkParentAgent (views 0) principalId parentId)
        fun _ => True := by
    cases parentId with
    | none => exact .pure trivial
    | some parentId =>
        exact Keeps.ofExcept.bind fun _ _ => Keeps.raiseWhen.trivially
  refine checks.bind fun _ _ => Keeps.get.bind fun _ _ => ?_
  refine Keeps.orRaise.bind fun _ _ => ?_
  exact (covers_agents.add own).bind fun _ _ => .pure trivial

/-- The flush of `revoke_agent` is confined when its agents are. -/
theorem confines_revokeAll
    {visited : List Id}
    (known : ∀ id ∈ visited, id ∈ scope.agents) :
    scope.Confines
      (modify fun db => { db with agents := revokeAll db.agents visited })
      fun _ => True := by
  apply Keeps.modify
  intro db holds
  induction visited generalizing db with
  | nil => exact ⟨rfl, holds⟩
  | cons id rest inductionHypothesis =>
      -- One flag, then the flags of the rest.
      let flagged : Db :=
        { db with
          agents :=
            db.agents.modify id fun agent => { agent with revoked := true } }
      have step :
          scope.others flagged = scope.others db ∧ scope.Holds flagged := by
        have owned := holds.agents id (known id List.mem_cons_self)
        constructor
        · refine covers_agents.outside db _ ?_
          apply Table.filter_modify
          · intro old found
            simp [owned old found]
          · intro old found
            simp [owned old found]
          · intro old
            rfl
        · refine covers_agents.inside db _ ?_ holds
          intro k ownedThere
          exact ownedThere.modify (fun _ => rfl) fun _ => rfl
      obtain ⟨same, holds'⟩ := step
      obtain ⟨same', holds''⟩ :=
        inductionHypothesis
          (fun id member => known id (List.mem_cons_of_mem _ member))
          flagged holds'
      exact ⟨same'.trans same, holds''⟩

/-- `revoke_agent` writes the agents it visits. -/
theorem confines_revokeAgent
    {views : Views}
    {fuel : Nat}
    {agentId : Id}
    (known : agentId ∈ scope.agents)
    (visits :
      ∀ visited,
        revokeWalk views fuel 2 (childAgents (views 1) agentId).reverse [] =
            some visited →
          ∀ id ∈ visited, id ∈ scope.agents) :
    scope.Confines (revokeAgent views fuel agentId) fun _ => True := by
  refine Keeps.orRaise.bind fun _ _ => ?_
  refine Keeps.orRaise.bind fun visited walked => ?_
  refine (confines_revokeAll ?_).bind fun _ _ => .pure trivial
  intro id member
  rcases List.mem_cons.mp member with rfl | visitedThere
  · exact known
  · exact visits visited walked id visitedThere

/-- The parent that `issue_mandate` goes on with is the one that is named. -/
theorem confines_loadParent
    {env : Env}
    {views : Views}
    {now : Datetime}
    {args : IssueMandate} :
    scope.Confines (loadParent env views now args)
      fun parent => ∀ row, parent = some row →
        args.parentMandateId = some row.id := by
  unfold loadParent
  cases named : args.parentMandateId with
  | none =>
      apply Keeps.pure
      intro row absent
      cases absent
  | some parentId =>
      apply Keeps.map
      have checks :
          scope.Confines (checkParent env views now args parentId)
            fun parent => parent.id = parentId := by
        refine Keeps.orRaise.bind fun parent found => ?_
        refine Keeps.ofExcept.bind fun _ _ => ?_
        refine Keeps.ofExcept.bind fun _ _ => ?_
        refine Keeps.orRaise.bind fun _ _ => ?_
        refine Keeps.raiseWhen.bind fun _ _ => ?_
        refine Keeps.ofExcept.bind fun _ _ => ?_
        exact .pure (Table.key_of_find found)
      refine checks.weaken ?_
      rintro parent rfl row isRow
      cases isRow
      rfl

/-- The escrow writes the parent and an event of the child's principal. -/
theorem confines_escrowWhenChild
    {now : Datetime}
    {child : Mandate}
    {parent : Option Mandate}
    (own : child.principalId = scope.principalId)
    (known : ∀ row, parent = some row → row.id ∈ scope.mandates) :
    scope.Confines (escrowWhenChild now child parent) fun _ => True := by
  cases parent with
  | none => exact .pure trivial
  | some parent =>
      refine Keeps.bind (covers_mandates.update ?_ ?_ ?_) fun _ _ => ?_
      · intro _ holds
        exact holds.mandates _ (known parent rfl)
      · intro _
        rfl
      · intro _
        rfl
      · refine Keeps.orRaise.bind fun _ _ => ?_
        exact confines_appendEvent own

/-- `issue_mandate` writes a nonce, the mandate and its escrow. -/
theorem confines_issueMandate
    {env : Env}
    {views : Views}
    {now debitNow : Datetime}
    {args : IssueMandate}
    {newId : Id}
    {freshNonce : String}
    (own : args.principalId = scope.principalId)
    (known : ∀ id, args.parentMandateId = some id → id ∈ scope.mandates) :
    scope.Confines
      (issueMandate env views now debitNow args newId freshNonce)
      fun _ => True := by
  refine Keeps.ofExcept.bind fun _ _ => ?_
  refine Keeps.ofExcept.bind fun _ _ => ?_
  refine Keeps.raiseWhen.bind fun _ _ => ?_
  refine Keeps.ofExcept.bind fun _ _ => ?_
  refine confines_loadParent.bind fun parent named => ?_
  refine Keeps.raiseWhen.bind fun _ _ => ?_
  refine Keeps.bind (covers_usedNonces.add own) fun _ _ => ?_
  refine Keeps.ofExcept.bind fun _ _ => ?_
  refine Keeps.ofExcept.bind fun _ _ => ?_
  refine Keeps.get.bind fun _ _ => ?_
  refine Keeps.raiseWhen.bind fun _ _ => ?_
  refine Keeps.bind (covers_mandates.add own) fun _ _ => ?_
  refine Keeps.bind (confines_escrowWhenChild own ?_) fun _ _ => ?_
  · intro row isParent
    exact known row.id (named row isParent)
  · exact .pure trivial

/-- `revoke_mandate` writes the mandate. -/
theorem confines_revokeMandate
    {views : Views}
    {mandateId : Id}
    (known : mandateId ∈ scope.mandates) :
    scope.Confines (revokeMandate views mandateId) fun _ => True := by
  refine Keeps.orRaise.bind fun _ _ => ?_
  apply Keeps.modify
  intro db holds
  have owned := holds.mandates mandateId known
  constructor
  · refine covers_mandates.outside db _ ?_
    apply Table.filter_modify
    · intro old found
      simp [owned old found]
    · intro old found
      simp [owned old found]
    · intro old
      rfl
  · refine covers_mandates.inside db _ ?_ holds
    intro k ownedThere
    exact ownedThere.modify (fun _ => rfl) fun _ => rfl

/-! ## The ledger -/

/-- `reserve` writes the mandate, a reservation and an event. -/
theorem confines_reserve
    {now : Datetime}
    {mandate : Mandate}
    {amountCents : Cents}
    {idempotencyKey nonce : Option String}
    {taskId : Option Id}
    {recordDeny : Bool}
    {newId : Id}
    (own : mandate.principalId = scope.principalId)
    (known : mandate.id ∈ scope.mandates) :
    scope.Confines
      (reserve now mandate amountCents idempotencyKey nonce taskId recordDeny
        newId)
      fun result => result.2.principalId = scope.principalId := by
  refine Keeps.raiseWhen.bind fun _ _ => ?_
  refine Keeps.bind (covers_mandates.update ?_ ?_ ?_) fun answer found => ?_
  · intro _ holds
    exact holds.mandates _ known
  · intro _
    rfl
  · intro _
    rfl
  · cases answer with
    | none =>
        cases recordDeny with
        | false => exact .throw
        | true => exact Keeps.bind (confines_appendEvent own) fun _ _ => .throw
    | some row =>
        have ownRow := (found row rfl).2
        refine Keeps.bind (covers_reservations.add ownRow) fun _ _ => ?_
        refine Keeps.bind (confines_appendEvent ownRow) fun _ _ => ?_
        exact .pure ownRow

/-- The claim of a logical operation. -/
theorem confines_claimWhenKeyed
    {view : Db}
    {principalId : Id}
    {idempotencyKey requestHash : Option String}
    (own : principalId = scope.principalId) :
    scope.Confines
      (claimWhenKeyed view principalId idempotencyKey requestHash)
      fun _ => True := by
  unfold claimWhenKeyed
  cases truthy idempotencyKey with
  | none => exact .pure trivial
  | some key =>
      refine Keeps.tryCatch
        (Keeps.savepoint (covers_idempotencyRecords.add own)) ?_
      intro exception
      cases exception <;> exact .throw

/-- The savepoint of `reserve_and_commit`. -/
theorem confines_reserveAndCommit
    {view : Db}
    {now : Datetime}
    {mandate : Mandate}
    {amountCents : Cents}
    {idempotencyKey nonce : Option String}
    {tool server : String}
    {requestHash : Option String}
    {taskId : Option Id}
    {reservationNewId invocationNewId : Id}
    (own : mandate.principalId = scope.principalId)
    (known : mandate.id ∈ scope.mandates) :
    scope.Confines
      (reserveAndCommit view now mandate amountCents idempotencyKey nonce
        tool server requestHash taskId reservationNewId invocationNewId)
      fun _ => True := by
  have claims :
      scope.Confines
        (claimAndReserve view now mandate amountCents idempotencyKey nonce
          tool server requestHash taskId reservationNewId invocationNewId)
        fun _ => True := by
    refine Keeps.bind (confines_claimWhenKeyed own) fun _ _ => ?_
    refine Keeps.bind (confines_reserve own known) ?_
    rintro ⟨reservation, charged⟩ ownRow
    refine Keeps.bind (covers_invocations.add ownRow) fun _ _ => ?_
    exact .pure trivial
  refine claims.savepoint.tryCatch ?_
  intro exception
  cases exception with
  | policyDenied outcome =>
      -- The row that is read again has the principal of the scope.
      refine Keeps.get.bind fun db holds => ?_
      refine Keeps.orRaise.bind fun row found => ?_
      have ownRow := holds.mandates _ known row found
      split
      · exact Keeps.bind (confines_appendEvent ownRow) fun _ _ => .throw
      · exact .throw
  | idempotencyReplay _ => exact .throw
  | finalizeLost => exact .throw
  | integrityError => exact .throw
  | notFound => exact .throw
  | badRequest => exact .throw
  | unfinished => exact .throw

/-- A compare-and-set of a reservation in the scope. -/
theorem confines_casReservation
    {reservation : Reservation}
    {newStatus : ReservationStatus}
    (known : reservation.id ∈ scope.reservations) :
    scope.Confines (casReservation reservation newStatus)
      fun answer => ∀ row, answer = some row →
        row.principalId = scope.principalId := by
  refine (covers_reservations.update ?_ ?_ ?_).weaken ?_
  · intro _ holds
    exact holds.reservations _ known
  · intro _
    rfl
  · intro _
    rfl
  · intro answer found row isRow
    exact (found row isRow).2

/-- A compare-and-set of an attempt in the scope. -/
theorem confines_casInvocation
    {invocation : Invocation}
    {allowed : List InvocationStatus}
    {newStatus : InvocationStatus}
    (known : invocation.id ∈ scope.invocations) :
    scope.Confines (casInvocation invocation allowed newStatus)
      fun answer => ∀ row, answer = some row →
        row.principalId = scope.principalId := by
  refine (covers_invocations.update ?_ ?_ ?_).weaken ?_
  · intro _ holds
    exact holds.invocations _ known
  · intro _
    rfl
  · intro _
    rfl
  · intro answer found row isRow
    exact (found row isRow).2

/-- The completion of a claim. -/
theorem confines_completeLogicalOperation
    {invocation : Invocation}
    {payload : Option InvokeResult}
    (own : invocation.principalId = scope.principalId) :
    scope.Confines (completeLogicalOperation invocation payload)
      fun _ => True := by
  unfold completeLogicalOperation
  cases truthy invocation.idempotencyKey with
  | none => exact .pure trivial
  | some key =>
      refine Keeps.get.bind fun view _ => ?_
      cases claimed :
          view.idempotencyRecords.find (invocation.principalId, key) with
      | none =>
          exact covers_idempotencyRecords.add own
      | some claim =>
          have claimKey : Keyed.key claim = (invocation.principalId, key) :=
            Table.key_of_find claimed
          have ownClaim : claim.principalId = scope.principalId :=
            (congrArg Prod.fst claimKey).trans own
          apply Keeps.modify
          intro db holds
          refine covers_idempotencyRecords.put holds ?_ ownClaim
          intro old found
          have sameKey := Table.key_of_find found
          exact (congrArg Prod.fst sameKey).trans ownClaim

/-! ## Receipts and billing -/

/-- `issue` writes a receipt of the principal. -/
theorem confines_issue
    {env : Env}
    {args : ReceiptArgs}
    (own : args.principalId = scope.principalId) :
    scope.Confines (issue env args) fun _ => True := by
  refine Keeps.get.bind fun _ _ => ?_
  refine Keeps.raiseWhen.bind fun _ _ => ?_
  exact Keeps.bind (covers_receipts.add own) fun _ _ => .pure trivial

/-- The platform fee is charged to the account of the scope. -/
theorem confines_applyPlatformFee
    {env : Env}
    {account : Account}
    {amountCents : Cents}
    (own : account.id = scope.accountId) :
    scope.Confines (applyPlatformFee env account amountCents)
      fun _ => True := by
  unfold applyPlatformFee
  dsimp only
  split
  · exact .pure trivial
  · apply Keeps.modify
    intro db holds
    refine ⟨?_, { holds with }⟩
    simp only [others]
    rw [Table.filter_modify]
    · intro old found
      have oldId : old.id = account.id := Table.key_of_find found
      simp [oldId, own]
    · intro old found
      have oldId : old.id = account.id := Table.key_of_find found
      simp [oldId, own]
    · intro old
      rfl

/-- `enqueue` writes an outbox row and the fee of the account. -/
theorem confines_enqueue
    {env : Env}
    {receiptId : Id}
    {amountCents : Cents}
    {principalId newId : Id}
    (own : principalId = scope.principalId) :
    scope.Confines
      (enqueue env receiptId amountCents principalId newId)
      fun _ => True := by
  refine Keeps.get.bind fun db holds => ?_
  split
  · exact .pure trivial
  · refine Keeps.bind (covers_billingOutbox.add own) fun _ _ => ?_
    cases billed : accountForPrincipal db principalId with
    | none => exact .pure trivial
    | some account =>
        obtain ⟨principal, isPrincipal, isAccount⟩ :=
          Option.bind_eq_some_iff.mp billed
        have accountId : account.id = principal.accountId :=
          Table.key_of_find isAccount
        have ofScope :=
          holds.account principal (own ▸ isPrincipal)
        refine Keeps.bind
          (confines_applyPlatformFee (accountId.trans ofScope))
          fun _ _ => .pure trivial

/-! ## Finalization -/

/-- Callbacks that bill the principal. -/
def Bills (scope : Scope) (callbacks : FinalizeCallbacks) : Prop :=
  (∀ args, callbacks.receiptFn = some args →
      args.principalId = scope.principalId) ∧
    ∀ args, callbacks.billingFn = some args →
      args.principalId = scope.principalId

/-- `finalize_success` writes the attempt, its reservation and its bill. -/
theorem confines_finalizeSuccess
    {env : Env}
    {sessionMandate : Id → Option Mandate}
    {reservation : Reservation}
    {invocation : Invocation}
    {callbacks : FinalizeCallbacks}
    (ofReservation : reservation.id ∈ scope.reservations)
    (ofInvocation : invocation.id ∈ scope.invocations)
    (bills : scope.Bills callbacks) :
    scope.Confines
      (finalizeSuccess env sessionMandate reservation invocation callbacks)
      fun _ => True := by
  have receipts :
      scope.Confines (runReceiptFn env callbacks) fun _ => True := by
    unfold runReceiptFn
    cases isReceiptFn : callbacks.receiptFn with
    | none => exact .pure trivial
    | some args => exact (confines_issue (bills.1 args isReceiptFn)).map
  have billing (receipt : Option Receipt) :
      scope.Confines (runBillingFn env callbacks receipt)
        fun _ => True := by
    unfold runBillingFn
    split
    · exact (confines_enqueue (bills.2 _ ‹_›)).map
    · exact .pure trivial
  have unit :
      scope.Confines
        (successUnit env sessionMandate reservation invocation callbacks)
        fun _ => True := by
    refine Keeps.bind (confines_casReservation ofReservation)
      fun held heldFound => ?_
    refine Keeps.orRaise.bind fun reservationRow isReservation => ?_
    have ownReservation := heldFound reservationRow isReservation
    refine Keeps.bind (confines_casInvocation ofInvocation)
      fun won wonFound => ?_
    refine Keeps.orRaise.bind fun invocationRow isInvocation => ?_
    have ownInvocation := wonFound invocationRow isInvocation
    refine Keeps.bind (confines_appendEvent ownReservation) fun _ _ => ?_
    refine receipts.bind fun receipt _ => ?_
    refine (billing receipt).bind fun _ _ => ?_
    refine Keeps.bind (confines_completeLogicalOperation ownInvocation)
      fun _ _ => ?_
    exact .pure trivial
  refine unit.savepoint.tryCatch ?_
  intro exception
  cases exception <;> first | exact .throw | exact .pure trivial

/-! ## The transactions of `invoke` -/

/-- The deny event of `_deny`. -/
theorem confines_deny
    {principalId : Option Id}
    {mandateId : Id}
    {outcome : Denied}
    {remaining : Option Cents}
    {idempotencyKey : Option String}
    (own : ∀ id, principalId = some id → id = scope.principalId) :
    scope.Confines
      (deny principalId mandateId outcome remaining idempotencyKey)
      fun _ => True := by
  have records :
      scope.Confines
        (recordDenial principalId mandateId outcome.reason remaining
          idempotencyKey)
        fun _ => True := by
    unfold recordDenial
    cases principalId with
    | none => exact .pure trivial
    | some id => exact confines_appendEvent (own id rfl)
  exact records.bind fun _ _ => .pure trivial

/-- `invoke` up to its reservation, on a mandate of the principal. -/
theorem confines_invokeBegin
    {env : Env}
    {views : Views}
    {request : InvokeRequest}
    {draw : InvokeDraw}
    (own :
      (views 0).mandates.OwnedBy Mandate.principalId scope.principalId
        request.mandateId)
    (known : request.mandateId ∈ scope.mandates) :
    scope.Confines (invokeBegin env views request draw) fun _ => True := by
  unfold invokeBegin
  dsimp only
  split
  · apply Keeps.map
    apply confines_deny
    intro id isPrincipal
    obtain ⟨row, found, rfl⟩ := Option.map_eq_some_iff.mp isPrincipal
    exact own row found
  · rename_i mandate live
    have found : (views 0).mandates.find request.mandateId = some mandate := by
      obtain ⟨loaded, found, rest⟩ := except_bind_eq_ok.mp live
      obtain ⟨_, _, rest⟩ := except_bind_eq_ok.mp rest
      obtain ⟨_, _, rest⟩ := except_bind_eq_ok.mp rest
      obtain ⟨_, _, answer⟩ := except_bind_eq_ok.mp rest
      cases answer
      unfold findMandate at found
      split at found
      · cases found
      · cases found
        assumption
    have ownMandate := own mandate found
    have isMandate : mandate.id = request.mandateId := Table.key_of_find found
    have denies (outcome : Denied) :
        scope.Confines
          (Begun.answered <$>
            deny (some mandate.principalId) mandate.id outcome
              (some mandate.remainingCents) request.idempotencyKey)
          fun _ => True := by
      apply Keeps.map
      apply confines_deny
      intro id isPrincipal
      cases isPrincipal
      exact ownMandate
    split
    · split
      · exact .pure trivial
      · exact denies _
    · exact .pure trivial
    · split
      · exact denies _
      · split
        · exact denies _
        · have nonce :
              scope.Confines (bookNonce mandate.principalId request.nonce)
                fun _ => True := by
            unfold bookNonce
            split
            · exact .pure trivial
            · exact covers_usedNonces.add ownMandate
          have task :
              scope.Confines
                (bookTask mandate request.taskId draw.newTaskId)
                fun _ => True := by
            unfold bookTask
            split
            · exact .pure trivial
            · exact Keeps.map
                (Keeps.bind (covers_tasks.add ownMandate)
                  fun _ _ => .pure trivial)
          refine nonce.bind fun _ _ => task.bind fun taskId _ => ?_
          unfold reserveOrAnswer
          refine Keeps.tryCatch (Keeps.bind
            (confines_reserveAndCommit ownMandate (isMandate ▸ known))
            fun _ _ => .pure trivial) ?_
          intro exception
          cases exception with
          | idempotencyReplay _ => exact .pure trivial
          | policyDenied _ =>
              exact Keeps.get.bind fun _ _ => .pure trivial
          | finalizeLost => exact .throw
          | integrityError => exact .throw
          | notFound => exact .throw
          | badRequest => exact .throw
          | unfinished => exact .throw

/-- The dispatch barrier writes the attempt. -/
theorem confines_invokeMark
    {attempt : Attempt}
    (known : attempt.invocation.id ∈ scope.invocations) :
    scope.Confines (invokeMark attempt) fun _ => True := by
  have marks :
      scope.Confines (markExecuting attempt.invocation) fun _ => True := by
    refine Keeps.bind (confines_casInvocation known) fun answer _ => ?_
    cases answer with
    | some row => exact .pure trivial
    | none =>
        refine Keeps.get.bind fun _ _ => ?_
        exact Keeps.orRaise.bind fun _ _ => .pure trivial
  refine marks.bind fun marked _ => ?_
  split
  · exact .pure trivial
  · refine Keeps.get.bind fun _ _ => ?_
    exact Keeps.orRaise.bind fun _ _ => .pure trivial

/-- The answer to a failed provider writes the attempt. -/
theorem confines_invokeFail
    {attempt : Attempt}
    {error : String}
    (known : attempt.invocation.id ∈ scope.invocations) :
    scope.Confines (invokeFail attempt error) fun _ => True := by
  have fails :
      scope.Confines (markExecutedFail attempt.invocation) fun _ => True :=
    Keeps.bind (confines_casInvocation known) fun _ _ => .pure trivial
  exact fails.bind fun _ _ => .pure trivial

/-- The finalization of a call writes its attempt and its bill. -/
theorem confines_invokeFinish
    {env : Env}
    {attempt : Attempt}
    {toolResult : JsonText}
    {draw : FinishDraw}
    (own : attempt.mandate.principalId = scope.principalId)
    (ofReservation : attempt.reservation.id ∈ scope.reservations)
    (ofInvocation : attempt.invocation.id ∈ scope.invocations) :
    scope.Confines (invokeFinish env attempt toolResult draw)
      fun _ => True := by
  have bills : scope.Bills (attempt.callbacks toolResult draw) := by
    constructor
    · intro args isReceiptFn
      cases isReceiptFn
      exact own
    · intro args isBillingFn
      cases isBillingFn
      exact own
  refine Keeps.bind
    (confines_finalizeSuccess ofReservation ofInvocation bills)
    fun finalized _ => ?_
  split <;> exact .pure trivial

end Functions

end Scope

end Crossing

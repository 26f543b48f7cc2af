import Crossing.Footprint
import Crossing.InvokeEffects
import Crossing.TransactionPair

namespace Crossing

open Relational
open Relational.Transaction

/-!
# Databases that look alike

A request reads and writes the rows of one principal and rows with ids that are
drawn for it.  A `Watch` names these rows.  On two databases that have the same
of them, a function that stays with them comes to the same outcome, and leaves
databases that look alike again.
-/

/--
The rows that a request meets: those of a principal and its account, the
mandates that are known by id, and what has an id or a nonce drawn for it.
-/
structure Watch where
  accountId : Id
  principalId : Id
  mandateIds : List Id := []
  draws : List Id := []
  nonces : List String := []

namespace Watch

/-- The account. -/
def accounts (watch : Watch) (row : Account) : Bool :=
  row.id = watch.accountId

/-- The principal. -/
def principals (watch : Watch) (row : Principal) : Bool :=
  row.id = watch.principalId

/-- Agents with an id that is drawn. -/
def agents (watch : Watch) (row : Agent) : Bool :=
  row.id ∈ watch.draws

/-- Tasks with an id that is drawn. -/
def tasks (watch : Watch) (row : Task) : Bool :=
  row.id ∈ watch.draws

/-- Mandates that are known, or have an id or a nonce that is drawn. -/
def mandates (watch : Watch) (row : Mandate) : Bool :=
  row.id ∈ watch.mandateIds || row.id ∈ watch.draws ||
    row.nonce ∈ watch.nonces

/-- Reservations with an id that is drawn. -/
def reservations (watch : Watch) (row : Reservation) : Bool :=
  row.id ∈ watch.draws

/-- Attempts with an id that is drawn. -/
def invocations (watch : Watch) (row : Invocation) : Bool :=
  row.id ∈ watch.draws

/-- Receipts with an id that is drawn, or for such a reservation. -/
def receipts (watch : Watch) (row : Receipt) : Bool :=
  row.id ∈ watch.draws || row.reservationId.any (· ∈ watch.draws)

/-- Outbox rows with an id that is drawn, or for such a receipt. -/
def billingOutbox (watch : Watch) (row : Outbox) : Bool :=
  row.id ∈ watch.draws || row.receiptId ∈ watch.draws

/-- Claims of the principal. -/
def idempotencyRecords (watch : Watch) (row : IdempotencyRecord) : Bool :=
  row.principalId = watch.principalId

/-- Nonces of the principal. -/
def usedNonces (watch : Watch) (row : UsedNonce) : Bool :=
  row.principalId = watch.principalId

/-- The databases have the same rows that are watched. -/
structure Alike (watch : Watch) (one two : Db) : Prop where
  account :
    one.principals.OwnedBy Principal.accountId watch.accountId
      watch.principalId
  accounts : one.accounts.Agree watch.accounts two.accounts
  principals : one.principals.Agree watch.principals two.principals
  agents : one.agents.Agree watch.agents two.agents
  tasks : one.tasks.Agree watch.tasks two.tasks
  mandates : one.mandates.Agree watch.mandates two.mandates
  reservations : one.reservations.Agree watch.reservations two.reservations
  invocations : one.invocations.Agree watch.invocations two.invocations
  receipts : one.receipts.Agree watch.receipts two.receipts
  billingOutbox :
    one.billingOutbox.Agree watch.billingOutbox two.billingOutbox
  idempotencyRecords :
    one.idempotencyRecords.Agree watch.idempotencyRecords
      two.idempotencyRecords
  usedNonces : one.usedNonces.Agree watch.usedNonces two.usedNonces

end Watch

/-! ## Single statements -/

namespace Watch

/-- A table of which a class of rows is watched. -/
structure Watches
    {ρ κ : Type}
    [Keyed ρ κ]
    [DecidableEq κ]
    (watch : Watch)
    (table : Db → Table ρ)
    (store : Db → Table ρ → Db)
    (isIn : ρ → Bool) :
    Prop where
  read : ∀ one two, watch.Alike one two → (table one).Agree isIn (table two)
  write :
    ∀ one two stored stored', watch.Alike one two →
      stored.Agree isIn stored' →
        watch.Alike (store one stored) (store two stored')

namespace Watches

variable
  {ρ κ : Type}
  [Keyed ρ κ]
  [DecidableEq κ]
  {watch : Watch}
  {table : Db → Table ρ}
  {store : Db → Table ρ → Db}
  {isIn : ρ → Bool}

/-- An insert at a watched key. -/
theorem add
    {row : ρ}
    (watches : watch.Watches table store isIn)
    (keyIn : Table.KeyIn isIn (Keyed.key row)) :
    Paired watch.Alike (addRow table store row) (addRow table store row)
      Eq := by
  intro one two alike
  unfold addRow
  rcases (watches.read one two alike).insert keyIn with
    ⟨refused, refused'⟩ | ⟨stored, stored', accepted, accepted', agree⟩
  · simp only [exec_bind, exec_get, refused, refused', exec_orRaise_none]
    exact ⟨alike, .raised _⟩
  · simp only [exec_bind, exec_get, accepted, accepted', exec_orRaise_some]
    exact ⟨watches.write one two stored stored' alike agree, .returned rfl⟩

/-- A conditional update at a watched key. -/
theorem update
    {k : κ}
    {guard : ρ → Bool}
    {change : ρ → ρ}
    (watches : watch.Watches table store isIn)
    (keyIn : Table.KeyIn isIn k)
    (keepsKey : ∀ row, Keyed.key (change row) = Keyed.key row) :
    Paired watch.Alike (updateRow table store k guard change)
      (updateRow table store k guard change)
      Eq := by
  intro one two alike
  unfold updateRow
  rcases (watches.read one two alike).update keyIn keepsKey with
    ⟨refused, refused'⟩ | ⟨row, stored, stored', changed, changed', agree⟩
  · simp only [exec_bind, exec_get]
    rw [refused, refused']
    exact ⟨alike, .returned rfl⟩
  · simp only [exec_bind, exec_get]
    rw [changed, changed']
    exact ⟨watches.write one two stored stored' alike agree, .returned rfl⟩

end Watches

section Tables

variable {watch : Watch}

theorem watches_accounts :
    watch.Watches Db.accounts (fun db table => { db with accounts := table })
      watch.accounts where
  read _ _ alike := alike.accounts
  write _ _ _ _ alike agree := { alike with accounts := agree }

theorem watches_agents :
    watch.Watches Db.agents (fun db table => { db with agents := table })
      watch.agents where
  read _ _ alike := alike.agents
  write _ _ _ _ alike agree := { alike with agents := agree }

theorem watches_tasks :
    watch.Watches Db.tasks (fun db table => { db with tasks := table })
      watch.tasks where
  read _ _ alike := alike.tasks
  write _ _ _ _ alike agree := { alike with tasks := agree }

theorem watches_mandates :
    watch.Watches Db.mandates storeMandates watch.mandates where
  read _ _ alike := alike.mandates
  write _ _ _ _ alike agree := { alike with mandates := agree }

theorem watches_reservations :
    watch.Watches Db.reservations storeReservations watch.reservations where
  read _ _ alike := alike.reservations
  write _ _ _ _ alike agree := { alike with reservations := agree }

theorem watches_invocations :
    watch.Watches Db.invocations storeInvocations watch.invocations where
  read _ _ alike := alike.invocations
  write _ _ _ _ alike agree := { alike with invocations := agree }

theorem watches_receipts :
    watch.Watches Db.receipts (fun db table => { db with receipts := table })
      watch.receipts where
  read _ _ alike := alike.receipts
  write _ _ _ _ alike agree := { alike with receipts := agree }

theorem watches_billingOutbox :
    watch.Watches Db.billingOutbox
      (fun db table => { db with billingOutbox := table })
      watch.billingOutbox where
  read _ _ alike := alike.billingOutbox
  write _ _ _ _ alike agree := { alike with billingOutbox := agree }

theorem watches_idempotencyRecords :
    watch.Watches Db.idempotencyRecords storeClaims
      watch.idempotencyRecords where
  read _ _ alike := alike.idempotencyRecords
  write _ _ _ _ alike agree := { alike with idempotencyRecords := agree }

theorem watches_usedNonces :
    watch.Watches Db.usedNonces
      (fun db table => { db with usedNonces := table })
      watch.usedNonces where
  read _ _ alike := alike.usedNonces
  write _ _ _ _ alike agree := { alike with usedNonces := agree }

end Tables

/-! ## Watched keys -/

section Keys

variable
  {watch : Watch}
  {one two : Db}

theorem accounts_keyIn :
    Table.KeyIn watch.accounts watch.accountId :=
  fun _ isKey => decide_eq_true isKey

theorem principals_keyIn :
    Table.KeyIn watch.principals watch.principalId :=
  fun _ isKey => decide_eq_true isKey

theorem idempotencyRecords_keyIn {key : String} :
    Table.KeyIn watch.idempotencyRecords (watch.principalId, key) :=
  fun _ isKey => decide_eq_true (Prod.mk.inj isKey).1

theorem usedNonces_keyIn {nonce : String} :
    Table.KeyIn watch.usedNonces (watch.principalId, nonce) :=
  fun _ isKey => decide_eq_true (Prod.mk.inj isKey).1

/-- Rows whose id is drawn, in any table. -/
theorem drawn_keyIn
    {ρ : Type}
    [Keyed ρ Id]
    {id : Id}
    (drawn : id ∈ watch.draws) :
    Table.KeyIn (fun row : ρ => decide (Keyed.key row ∈ watch.draws)) id :=
  fun _ isKey => decide_eq_true (isKey ▸ drawn)

/-- What else is watched does not matter for such rows. -/
theorem drawn_keyIn_or
    {ρ : Type}
    [Keyed ρ Id]
    {others : ρ → Bool}
    {id : Id}
    (drawn : id ∈ watch.draws) :
    Table.KeyIn
      (fun row : ρ => decide (Keyed.key row ∈ watch.draws) || others row)
      id :=
  fun row isKey => Bool.or_eq_true_iff.mpr (.inl (drawn_keyIn drawn row isKey))

theorem mandates_keyIn
    {id : Id}
    (known : id ∈ watch.mandateIds ∨ id ∈ watch.draws) :
    Table.KeyIn watch.mandates id := by
  rintro row rfl
  have known' : row.id ∈ watch.mandateIds ∨ row.id ∈ watch.draws := known
  unfold mandates
  rcases known' with isKnown | drawn
  · simp [isKnown]
  · simp [drawn]

/-- The account of the principal is the same. -/
theorem Alike.accountForPrincipal
    (alike : watch.Alike one two) :
    Crossing.accountForPrincipal one watch.principalId =
      Crossing.accountForPrincipal two watch.principalId := by
  have same := alike.principals.find principals_keyIn
  unfold Crossing.accountForPrincipal
  rw [← same]
  cases found : one.principals.find watch.principalId with
  | none => rfl
  | some principal =>
      have ofAccount := alike.account principal found
      simp only [Option.bind_some]
      rw [ofAccount]
      exact alike.accounts.find accounts_keyIn

end Keys

/-! ## The functions of a call -/

section Functions

variable
  {watch : Watch}
  {one two : Db}

/-- An event of the ledger is not watched. -/
theorem appendEvent_paired {event : LedgerEvent} :
    Paired watch.Alike (appendEvent event) (appendEvent event) Eq := by
  intro left right alike
  exact ⟨{ alike with }, .returned rfl⟩

/-- A denial is recorded in the ledger only. -/
theorem deny_paired
    {principalId : Option Id}
    {mandateId : Id}
    {outcome : Denied}
    {remaining : Option Cents}
    {key : Option String} :
    Paired watch.Alike (deny principalId mandateId outcome remaining key)
      (deny principalId mandateId outcome remaining key) Eq := by
  unfold deny
  have records :
      Paired watch.Alike
        (recordDenial principalId mandateId outcome.reason remaining key)
        (recordDenial principalId mandateId outcome.reason remaining key)
        Eq := by
    cases principalId with
    | none => exact .pure rfl
    | some principalId => exact appendEvent_paired
  exact records.step fun _ => .pure rfl

/-- `reserve` on a mandate that is watched. -/
theorem reserve_paired
    {now : Datetime}
    {mandate : Mandate}
    {amountCents : Cents}
    {idempotencyKey nonce : Option String}
    {taskId : Option Id}
    {recordDeny : Bool}
    {newId : Id}
    (known : mandate.id ∈ watch.mandateIds)
    (drawn : newId ∈ watch.draws) :
    Paired watch.Alike
      (reserve now mandate amountCents idempotencyKey nonce taskId recordDeny
        newId)
      (reserve now mandate amountCents idempotencyKey nonce taskId recordDeny
        newId)
      Eq := by
  unfold reserve
  refine Paired.step (.raiseWhen Iff.rfl) fun _ => ?_
  refine Paired.step
    (watches_mandates.update (mandates_keyIn (.inl known)) fun _ => rfl)
    fun row => ?_
  cases row with
  | none =>
      dsimp only
      split
      · exact .step appendEvent_paired fun _ => .throw
      · exact .throw
  | some mandate =>
      refine Paired.step
        (watches_reservations.add (drawn_keyIn drawn)) fun _ => ?_
      exact .step appendEvent_paired fun _ => .pure rfl

/-- The claim of an operation of the principal. -/
theorem claimWhenKeyed_paired
    {idempotencyKey requestHash : Option String}
    (alike : watch.Alike one two) :
    Paired watch.Alike
      (claimWhenKeyed one watch.principalId idempotencyKey requestHash)
      (claimWhenKeyed two watch.principalId idempotencyKey requestHash)
      Eq := by
  unfold claimWhenKeyed
  cases truthy idempotencyKey with
  | none => exact .pure rfl
  | some key =>
      unfold claimIdempotency
      refine Paired.tryCatch (Paired.savepoint
        (watches_idempotencyRecords.add idempotencyRecords_keyIn)) ?_
      intro exception
      cases exception with
      | integrityError =>
          dsimp only
          rw [alike.idempotencyRecords.find idempotencyRecords_keyIn]
          exact .throw
      | policyDenied _ => exact .throw
      | idempotencyReplay _ => exact .throw
      | finalizeLost => exact .throw
      | notFound => exact .throw
      | badRequest => exact .throw
      | unfinished => exact .throw

/-- `reserve_and_commit` on a mandate that is watched. -/
theorem reserveAndCommit_paired
    {now : Datetime}
    {mandate : Mandate}
    {amountCents : Cents}
    {idempotencyKey nonce : Option String}
    {tool server : String}
    {requestHash : Option String}
    {taskId : Option Id}
    {reservationNewId invocationNewId : Id}
    (alike : watch.Alike one two)
    (ofPrincipal : mandate.principalId = watch.principalId)
    (known : mandate.id ∈ watch.mandateIds)
    (reservationDrawn : reservationNewId ∈ watch.draws)
    (invocationDrawn : invocationNewId ∈ watch.draws) :
    Paired watch.Alike
      (reserveAndCommit one now mandate amountCents idempotencyKey nonce tool
        server requestHash taskId reservationNewId invocationNewId)
      (reserveAndCommit two now mandate amountCents idempotencyKey nonce tool
        server requestHash taskId reservationNewId invocationNewId)
      Eq := by
  have claims :
      Paired watch.Alike
        (claimAndReserve one now mandate amountCents idempotencyKey nonce
          tool server requestHash taskId reservationNewId invocationNewId)
        (claimAndReserve two now mandate amountCents idempotencyKey nonce
          tool server requestHash taskId reservationNewId invocationNewId)
        Eq := by
    unfold claimAndReserve
    rw [ofPrincipal]
    refine Paired.step (claimWhenKeyed_paired alike) fun _ => ?_
    refine Paired.step (reserve_paired known reservationDrawn)
      fun reserved => ?_
    refine Paired.step
      (watches_invocations.add (drawn_keyIn invocationDrawn))
      fun _ => ?_
    exact .pure rfl
  unfold reserveAndCommit
  refine Paired.tryCatch (Paired.savepoint claims) ?_
  intro exception
  cases exception with
  | policyDenied outcome =>
      refine Paired.get.bind fun left right alike => ?_
      refine Paired.step
        (.orRaise (alike.mandates.find (mandates_keyIn (.inl known))))
        fun stored => ?_
      dsimp only
      split
      · exact .step appendEvent_paired fun _ => .throw
      · exact .throw
  | idempotencyReplay _ => exact .throw
  | integrityError => exact .throw
  | finalizeLost => exact .throw
  | notFound => exact .throw
  | badRequest => exact .throw
  | unfinished => exact .throw

/-- The stored results of the principal are the same. -/
theorem Alike.loadIdem
    {key : Option String}
    {requestHash : String}
    (alike : watch.Alike one two) :
    Crossing.loadIdem one watch.principalId key requestHash =
      Crossing.loadIdem two watch.principalId key requestHash := by
  unfold Crossing.loadIdem
  cases truthy key with
  | none => rfl
  | some key =>
      dsimp only
      rw [alike.idempotencyRecords.find idempotencyRecords_keyIn]

/-- The nonces of the principal are the same. -/
theorem Alike.nonceClash
    {nonce : Option String}
    (alike : watch.Alike one two) :
    Crossing.nonceClash one watch.principalId nonce =
      Crossing.nonceClash two watch.principalId nonce := by
  unfold Crossing.nonceClash
  cases truthy nonce with
  | none => rfl
  | some nonce =>
      simp only [Option.any_some]
      rw [alike.usedNonces.find usedNonces_keyIn]

/-- The price of a call is the same. -/
theorem Alike.checkedPrice
    {env : Env}
    {mandate : Mandate}
    {request : InvokeRequest}
    {quoted : Except Denied Cents}
    (alike : watch.Alike one two)
    (ofPrincipal : mandate.principalId = watch.principalId) :
    Crossing.checkedPrice env one mandate request quoted =
      Crossing.checkedPrice env two mandate request quoted := by
  unfold Crossing.checkedPrice requireBillable
  rw [ofPrincipal, alike.accountForPrincipal]

/-- The nonce of a call is booked for the principal. -/
theorem bookNonce_paired
    {nonce : Option String} :
    Paired watch.Alike (bookNonce watch.principalId nonce)
      (bookNonce watch.principalId nonce) Eq := by
  unfold bookNonce
  split
  · exact .pure rfl
  · exact watches_usedNonces.add usedNonces_keyIn

/-- A task is booked under the id that is drawn for it. -/
theorem bookTask_paired
    {mandate : Mandate}
    {taskId : Option Id}
    {newId : Id}
    (drawn : newId ∈ watch.draws) :
    Paired watch.Alike (bookTask mandate taskId newId)
      (bookTask mandate taskId newId) Eq := by
  unfold bookTask
  split
  · exact .pure rfl
  · apply Paired.mapEq
    exact .step (watches_tasks.add (drawn_keyIn drawn)) fun _ => .pure rfl

/-- The reservation of a call, or the answer to its denial. -/
theorem reserveOrAnswer_paired
    {mandate : Mandate}
    {price : Cents}
    {request : InvokeRequest}
    {requestHash : String}
    {taskId : Option Id}
    {draw : InvokeDraw}
    (alike : watch.Alike one two)
    (ofPrincipal : mandate.principalId = watch.principalId)
    (known : mandate.id ∈ watch.mandateIds)
    (reservationDrawn : draw.newReservationId ∈ watch.draws)
    (invocationDrawn : draw.newInvocationId ∈ watch.draws) :
    Paired watch.Alike
      (reserveOrAnswer one mandate price request requestHash taskId draw)
      (reserveOrAnswer two mandate price request requestHash taskId draw)
      Eq := by
  unfold reserveOrAnswer
  refine Paired.tryCatch (Paired.step
    (reserveAndCommit_paired alike ofPrincipal known reservationDrawn
      invocationDrawn)
    fun _ => .pure rfl) ?_
  intro exception
  cases exception with
  | idempotencyReplay _ => exact .pure rfl
  | policyDenied _ =>
      refine Paired.get.bind fun left right alike => ?_
      dsimp only
      rw [alike.mandates.find (mandates_keyIn (.inl known))]
      exact .pure rfl
  | finalizeLost => exact .throw
  | integrityError => exact .throw
  | notFound => exact .throw
  | badRequest => exact .throw
  | unfinished => exact .throw

/-- `invoke` up to its reservation, on a mandate that is watched. -/
theorem invokeBegin_paired
    {env : Env}
    {request : InvokeRequest}
    {draw : InvokeDraw}
    {mandate : Mandate}
    (alike : watch.Alike one two)
    (found : one.mandates.find request.mandateId = some mandate)
    (ofPrincipal : mandate.principalId = watch.principalId)
    (known : request.mandateId ∈ watch.mandateIds)
    (live :
      loadLiveMandate env (fun _ => one) draw.now request.mandateId =
        loadLiveMandate env (fun _ => two) draw.now request.mandateId)
    (taskDrawn : draw.newTaskId ∈ watch.draws)
    (reservationDrawn : draw.newReservationId ∈ watch.draws)
    (invocationDrawn : draw.newInvocationId ∈ watch.draws) :
    Paired watch.Alike (invokeBegin env (fun _ => one) request draw)
      (invokeBegin env (fun _ => two) request draw) Eq := by
  unfold invokeBegin
  dsimp only
  rw [← live, ← alike.mandates.find (mandates_keyIn (.inl known))]
  cases loaded : loadLiveMandate env (fun _ => one) draw.now
      request.mandateId with
  | error outcome => exact .mapEq deny_paired
  | ok liveMandate =>
      have stored := (loadLiveMandate_ok loaded).1
      cases found.symm.trans stored
      have isMandate : mandate.id = request.mandateId :=
        Table.key_of_find found
      have denies
          {outcome : Denied} :
          Paired watch.Alike
            (Begun.answered <$>
              deny (some mandate.principalId) mandate.id outcome
                (some mandate.remainingCents) request.idempotencyKey)
            (Begun.answered <$>
              deny (some mandate.principalId) mandate.id outcome
                (some mandate.remainingCents) request.idempotencyKey)
            Eq :=
        .mapEq deny_paired
      dsimp only
      rw [ofPrincipal, ← alike.loadIdem, ← alike.nonceClash,
        ← alike.checkedPrice ofPrincipal]
      rw [ofPrincipal] at denies
      split
      · split
        · exact .pure rfl
        · exact denies
      · exact .pure rfl
      · split
        · exact denies
        · split
          · exact denies
          · refine bookNonce_paired.step fun _ => ?_
            refine (bookTask_paired taskDrawn).step fun taskId => ?_
            exact reserveOrAnswer_paired alike ofPrincipal (isMandate ▸ known)
              reservationDrawn invocationDrawn

/-- The dispatch barrier of an attempt that is watched. -/
theorem invokeMark_paired
    {attempt : Attempt}
    (drawn : attempt.invocation.id ∈ watch.draws) :
    Paired watch.Alike (invokeMark attempt) (invokeMark attempt) Eq := by
  have refreshes
      (left right : Db)
      (alike : watch.Alike left right) :
      left.invocations.find attempt.invocation.id =
        right.invocations.find attempt.invocation.id :=
    alike.invocations.find (drawn_keyIn drawn)
  have marks :
      Paired watch.Alike (markExecuting attempt.invocation)
        (markExecuting attempt.invocation) Eq := by
    refine Paired.step
      (watches_invocations.update (drawn_keyIn drawn) fun _ => rfl)
      fun row => ?_
    cases row with
    | some row => exact .pure rfl
    | none =>
        refine Paired.get.bind fun left right alike => ?_
        exact .step (.orRaise (refreshes left right alike)) fun _ => .pure rfl
  refine Paired.step marks fun marked => ?_
  split
  · exact .pure rfl
  · refine Paired.get.bind fun left right alike => ?_
    exact .step (.orRaise (refreshes left right alike)) fun _ => .pure rfl

/-- The answer to a failed provider, for an attempt that is watched. -/
theorem invokeFail_paired
    {attempt : Attempt}
    {error : String}
    (drawn : attempt.invocation.id ∈ watch.draws) :
    Paired watch.Alike (invokeFail attempt error) (invokeFail attempt error)
      Eq := by
  have fails :
      Paired watch.Alike (markExecutedFail attempt.invocation)
        (markExecutedFail attempt.invocation) Eq :=
    Paired.step
      (watches_invocations.update (drawn_keyIn drawn) fun _ => rfl)
      fun _ => .pure rfl
  exact fails.step fun _ => .pure rfl

/-! ### Finalization -/

/-- The databases look alike, and the first one has the rows of a scope. -/
def AlikeIn (watch : Watch) (scope : Scope) (one two : Db) : Prop :=
  watch.Alike one two ∧ scope.Holds one

variable {scope : Scope}

/-- `issue` for a reservation and with an id that are watched. -/
theorem issue_paired
    {env : Env}
    {args : ReceiptArgs}
    (drawn : args.newId ∈ watch.draws)
    (ofReservation : ∀ id ∈ args.reservationId, id ∈ watch.draws) :
    Paired watch.Alike (issue env args) (issue env args) Eq := by
  refine Paired.get.bind fun left right alike => ?_
  have taken (id : Id) (isReservation : id ∈ args.reservationId) :
      (∃ row ∈ left.receipts.rows, row.reservationId = some id) ↔
        ∃ row ∈ right.receipts.rows, row.reservationId = some id := by
    refine alike.receipts.exists_iff ?_
    intro row isRow
    simp [receipts, isRow, ofReservation id isReservation]
  refine Paired.step (.raiseWhen ?_) fun _ => ?_
  · constructor
    · rintro ⟨id, isReservation, found⟩
      exact ⟨id, isReservation, (taken id isReservation).mp found⟩
    · rintro ⟨id, isReservation, found⟩
      exact ⟨id, isReservation, (taken id isReservation).mpr found⟩
  · exact .step (watches_receipts.add (drawn_keyIn_or drawn))
      fun _ => .pure rfl

/-- `enqueue` for a receipt and with an id that are watched. -/
theorem enqueue_paired
    {env : Env}
    {receiptId : Id}
    {amountCents : Cents}
    {newId : Id}
    (drawn : newId ∈ watch.draws)
    (ofReceipt : receiptId ∈ watch.draws) :
    Paired watch.Alike
      (enqueue env receiptId amountCents watch.principalId newId)
      (enqueue env receiptId amountCents watch.principalId newId)
      Eq := by
  refine Paired.get.bind fun left right alike => ?_
  have queued :
      left.billingOutbox.rows.find? (·.receiptId = receiptId) =
        right.billingOutbox.rows.find? (·.receiptId = receiptId) := by
    refine alike.billingOutbox.find? ?_
    intro row isRow
    simp [billingOutbox, of_decide_eq_true isRow, ofReceipt]
  rw [queued, alike.accountForPrincipal]
  split
  · exact .pure rfl
  · refine Paired.step
      (watches_billingOutbox.add (drawn_keyIn_or drawn)) fun _ => ?_
    have isAccount :
        ∀ account, accountForPrincipal right watch.principalId =
            some account →
          account.id = watch.accountId := by
      intro account billed
      rw [← alike.accountForPrincipal] at billed
      obtain ⟨principal, isPrincipal, found⟩ :=
        Option.bind_eq_some_iff.mp billed
      exact (Table.key_of_find found).trans
        (alike.account principal isPrincipal)
    have charges :
        ∀ account, account.id = watch.accountId →
          Paired watch.Alike (applyPlatformFee env account amountCents)
            (applyPlatformFee env account amountCents) Eq := by
      intro account ofWatch
      unfold applyPlatformFee
      dsimp only
      split
      · exact .pure rfl
      · refine Paired.weaken (Paired.modify ?_) fun _ _ _ => rfl
        intro one two alike
        refine watches_accounts.write one two _ _ alike ?_
        exact alike.accounts.modify (ofWatch ▸ accounts_keyIn) fun _ => rfl
    cases billed : accountForPrincipal right watch.principalId with
    | none => exact .pure rfl
    | some account =>
        exact .step (charges account (isAccount account billed))
          fun _ => .pure rfl

/-- The completion of a claim of the principal. -/
theorem completeLogicalOperation_paired
    {invocation : Invocation}
    {payload : Option InvokeResult}
    (own : invocation.principalId = watch.principalId) :
    Paired watch.Alike (completeLogicalOperation invocation payload)
      (completeLogicalOperation invocation payload) Eq := by
  unfold completeLogicalOperation
  cases truthy invocation.idempotencyKey with
  | none => exact .pure rfl
  | some key =>
      refine Paired.get.bind fun left right alike => ?_
      dsimp only
      rw [own, ← alike.idempotencyRecords.find idempotencyRecords_keyIn]
      cases claimed :
          left.idempotencyRecords.find (watch.principalId, key) with
      | none =>
          refine watches_idempotencyRecords.add ?_
          simp only [completedClaim, own]
          exact idempotencyRecords_keyIn
      | some claim =>
          have claimKey : Keyed.key claim = (watch.principalId, key) :=
            Table.key_of_find claimed
          refine Paired.weaken (Paired.modify ?_) fun _ _ _ => rfl
          intro one two alike
          refine watches_idempotencyRecords.write one two _ _ alike ?_
          refine alike.idempotencyRecords.put ?_
          have sameKey :
              Keyed.key (completedClaim invocation key payload
                (some claim)) = (watch.principalId, key) :=
            claimKey
          rw [sameKey]
          exact idempotencyRecords_keyIn

/-- A body that stays with the scope and with what is watched. -/
theorem within
    {α : Type}
    {body : Body α}
    {kept : α → Prop}
    (paired : Paired watch.Alike body body Eq)
    (confines : scope.Confines body kept) :
    Paired (watch.AlikeIn scope) body body
      fun left right => left = right ∧ kept left :=
  paired.keeping confines

/-- Callbacks that bill the principal under ids that are drawn. -/
structure Bills (watch : Watch) (callbacks : FinalizeCallbacks) : Prop where
  receipt :
    ∀ args, callbacks.receiptFn = some args →
      args.principalId = watch.principalId ∧ args.newId ∈ watch.draws ∧
        ∀ id ∈ args.reservationId, id ∈ watch.draws
  billing :
    ∀ args, callbacks.billingFn = some args →
      args.principalId = watch.principalId ∧ args.newId ∈ watch.draws

/-- The receipt that is issued has an id that is drawn. -/
theorem runReceiptFn_paired
    {env : Env}
    {callbacks : FinalizeCallbacks}
    (bills : watch.Bills callbacks)
    (ofScope : scope.principalId = watch.principalId) :
    Paired (watch.AlikeIn scope) (runReceiptFn env callbacks)
      (runReceiptFn env callbacks)
      fun left right =>
        left = right ∧ ∀ row, left = some row → row.id ∈ watch.draws := by
  unfold runReceiptFn
  cases isReceiptFn : callbacks.receiptFn with
  | none =>
      refine Paired.pure ⟨rfl, ?_⟩
      intro row absent
      cases absent
  | some args =>
      obtain ⟨own, drawn, ofReservation⟩ := bills.receipt args isReceiptFn
      have issues :
          scope.Confines (issue env args)
            fun receipt => receipt.id ∈ watch.draws := by
        refine Keeps.get.bind fun _ _ => ?_
        refine Keeps.raiseWhen.bind fun _ _ => ?_
        refine Keeps.bind
          (Scope.covers_receipts.add (own.trans ofScope.symm)) fun _ _ => ?_
        exact .pure drawn
      refine Paired.map ?_
      refine (within (issue_paired drawn ofReservation) issues).weaken ?_
      rintro receipt _ ⟨rfl, isDrawn⟩
      refine ⟨rfl, ?_⟩
      intro row isRow
      cases isRow
      exact isDrawn

/-- The outbox row of a receipt whose id is drawn. -/
theorem runBillingFn_paired
    {env : Env}
    {callbacks : FinalizeCallbacks}
    {receipt : Option Receipt}
    (bills : watch.Bills callbacks)
    (ofScope : scope.principalId = watch.principalId)
    (drawn : ∀ row, receipt = some row → row.id ∈ watch.draws) :
    Paired (watch.AlikeIn scope) (runBillingFn env callbacks receipt)
      (runBillingFn env callbacks receipt) Eq := by
  unfold runBillingFn
  split
  · rename_i args row isBillingFn
    obtain ⟨own, outboxDrawn⟩ := bills.billing args isBillingFn
    rw [own]
    refine Paired.mapEq ((within
      (enqueue_paired outboxDrawn (drawn row rfl))
      (Scope.confines_enqueue ofScope.symm)).weaken ?_)
    exact fun _ _ same => same.1
  · exact .pure rfl

/-- `finalize_success` on an attempt and a reservation that are watched. -/
theorem finalizeSuccess_paired
    {env : Env}
    {sessionMandate : Id → Option Mandate}
    {reservation : Reservation}
    {invocation : Invocation}
    {callbacks : FinalizeCallbacks}
    (bills : watch.Bills callbacks)
    (ofScope : scope.principalId = watch.principalId)
    (ofReservation : reservation.id ∈ scope.reservations)
    (ofInvocation : invocation.id ∈ scope.invocations)
    (reservationDrawn : reservation.id ∈ watch.draws)
    (invocationDrawn : invocation.id ∈ watch.draws) :
    Paired (watch.AlikeIn scope)
      (finalizeSuccess env sessionMandate reservation invocation callbacks)
      (finalizeSuccess env sessionMandate reservation invocation callbacks)
      Eq := by
  have present
      {α : Type}
      (found : Option α) :
      Paired (watch.AlikeIn scope)
        (orRaise Raised.finalizeLost found : Body α)
        (orRaise Raised.finalizeLost found)
        fun left right => left = right ∧ found = some left :=
    within (.orRaise rfl) Keeps.orRaise
  have commits :
      Paired (watch.AlikeIn scope) (casReservation reservation .committed)
        (casReservation reservation .committed)
        fun left right => left = right ∧
          ∀ row, left = some row → row.principalId = scope.principalId :=
    within
      (watches_reservations.update (drawn_keyIn reservationDrawn)
        fun _ => rfl)
      (Scope.confines_casReservation ofReservation)
  have wins :
      Paired (watch.AlikeIn scope)
        (casInvocation invocation [.executing, .executedOk] .committed)
        (casInvocation invocation [.executing, .executedOk] .committed)
        fun left right => left = right ∧
          ∀ row, left = some row → row.principalId = scope.principalId :=
    within
      (watches_invocations.update (drawn_keyIn invocationDrawn)
        fun _ => rfl)
      (Scope.confines_casInvocation ofInvocation)
  have unit :
      Paired (watch.AlikeIn scope)
        (successUnit env sessionMandate reservation invocation callbacks)
        (successUnit env sessionMandate reservation invocation callbacks)
        Eq := by
    refine commits.bind ?_
    rintro held _ ⟨rfl, heldOf⟩
    refine (present held).bind ?_
    rintro reservation _ ⟨rfl, isHeld⟩
    refine wins.bind ?_
    rintro won _ ⟨rfl, wonOf⟩
    refine (present won).bind ?_
    rintro invocation _ ⟨rfl, isWon⟩
    have own := wonOf invocation isWon
    refine (within appendEvent_paired
      (Scope.confines_appendEvent (heldOf reservation isHeld))).bind ?_
    rintro _ _ _
    refine (runReceiptFn_paired bills ofScope).bind ?_
    rintro receipt _ ⟨rfl, isDrawn⟩
    refine (runBillingFn_paired bills ofScope isDrawn).step fun outbox => ?_
    refine (within (completeLogicalOperation_paired (own.trans ofScope))
      (Scope.confines_completeLogicalOperation own)).bind ?_
    rintro _ _ _
    exact .pure rfl
  refine unit.savepoint.tryCatch ?_
  intro exception
  cases exception <;> first | exact .throw | exact .pure rfl

/-- The settlement of a call of the principal. -/
theorem invokeFinish_paired
    {env : Env}
    {attempt : Attempt}
    {toolResult : JsonText}
    {draw : FinishDraw}
    (own : attempt.mandate.principalId = watch.principalId)
    (ofScope : scope.principalId = watch.principalId)
    (ofReservation : attempt.reservation.id ∈ scope.reservations)
    (ofInvocation : attempt.invocation.id ∈ scope.invocations)
    (reservationDrawn : attempt.reservation.id ∈ watch.draws)
    (invocationDrawn : attempt.invocation.id ∈ watch.draws)
    (receiptDrawn : draw.newReceiptId ∈ watch.draws)
    (outboxDrawn : draw.newOutboxId ∈ watch.draws) :
    Paired (watch.AlikeIn scope) (invokeFinish env attempt toolResult draw)
      (invokeFinish env attempt toolResult draw) Eq := by
  have bills : watch.Bills (attempt.callbacks toolResult draw) := by
    constructor
    · intro args isReceiptFn
      cases isReceiptFn
      refine ⟨own, receiptDrawn, ?_⟩
      intro id isReservation
      cases isReservation
      exact reservationDrawn
    · intro args isBillingFn
      cases isBillingFn
      exact ⟨own, outboxDrawn⟩
  refine Paired.step
    (finalizeSuccess_paired bills ofScope ofReservation ofInvocation
      reservationDrawn invocationDrawn)
    fun finalized => ?_
  split <;> exact .pure rfl

/-! ### Issuance -/

/-- `create_agent`, below a parent that is judged alike. -/
theorem createAgent_paired
    {parentId : Option Id}
    {newId : Id}
    (drawn : newId ∈ watch.draws)
    (sameParent :
      ∀ id ∈ parentId, one.agents.find id = two.agents.find id) :
    Paired watch.Alike
      (createAgent (fun _ => one) watch.principalId parentId newId)
      (createAgent (fun _ => two) watch.principalId parentId newId) Eq := by
  have checks :
      Paired watch.Alike (checkParentAgent one watch.principalId parentId)
        (checkParentAgent two watch.principalId parentId) Eq := by
    unfold checkParentAgent
    cases parentId with
    | none => exact .pure rfl
    | some id =>
        dsimp only
        rw [sameParent id rfl]
        exact .step .ofExcept fun _ => .raiseWhen Iff.rfl
  refine checks.step fun _ => Paired.get.bind fun left right alike => ?_
  refine Paired.step
    (.orRaise (alike.principals.find principals_keyIn)) fun _ => ?_
  exact .step (watches_agents.add (drawn_keyIn drawn)) fun _ => .pure rfl

/-- The key that registers for the principal is the same. -/
theorem Alike.verifyStoredMandate
    {env : Env}
    {mandate : Mandate}
    (alike : watch.Alike one two)
    (ofPrincipal : mandate.principalId = watch.principalId) :
    Crossing.verifyStoredMandate env one mandate =
      Crossing.verifyStoredMandate env two mandate := by
  unfold Crossing.verifyStoredMandate
  rw [ofPrincipal, alike.principals.find principals_keyIn]

/-- What is stored as the signature is the same. -/
theorem Alike.storedSignature
    {env : Env}
    {args : IssueMandate}
    {payload : MandatePayload}
    (alike : watch.Alike one two)
    (ofPrincipal : args.principalId = watch.principalId) :
    Crossing.storedSignature env one args payload =
      Crossing.storedSignature env two args payload := by
  unfold Crossing.storedSignature verifyCallerSignature
  rw [ofPrincipal, alike.principals.find principals_keyIn]

/-- The checks on a parent that is watched and judged alike. -/
theorem loadParent_paired
    {env : Env}
    {now : Datetime}
    {args : IssueMandate}
    (alike : watch.Alike one two)
    (known : ∀ id ∈ args.parentMandateId, id ∈ watch.mandateIds)
    (sameStanding :
      ∀ id ∈ args.parentMandateId, ∀ parent,
        one.mandates.find id = some parent →
          Crossing.verifyStoredMandate env one parent =
              Crossing.verifyStoredMandate env two parent ∧
            isSelfOrDescendant one.agents args.agentId parent.agentId =
              isSelfOrDescendant two.agents args.agentId parent.agentId) :
    Paired watch.Alike (loadParent env (fun _ => one) now args)
      (loadParent env (fun _ => two) now args)
      fun left right => left = right ∧
        ∀ parent, left = some parent → parent.id ∈ watch.mandateIds := by
  unfold loadParent
  cases named : args.parentMandateId with
  | none =>
      refine Paired.pure ⟨rfl, ?_⟩
      intro parent absent
      cases absent
  | some parentId =>
      have isKnown := known parentId named
      have sameFind :=
        alike.mandates.find (mandates_keyIn (.inl isKnown))
      refine Paired.map ?_
      unfold checkParent
      dsimp only
      rw [← sameFind]
      cases found : one.mandates.find parentId with
      | none => exact .throw
      | some parent =>
          obtain ⟨sameSeal, sameWalk⟩ :=
            sameStanding parentId named parent found
          have isParent : parent.id = parentId := Table.key_of_find found
          simp only [orRaise, pure_bind]
          rw [← sameSeal, ← sameWalk]
          refine Paired.step .ofExcept fun _ => ?_
          refine Paired.step .ofExcept fun _ => ?_
          refine Paired.step (.orRaise rfl) fun descends => ?_
          refine Paired.step (.raiseWhen Iff.rfl) fun _ => ?_
          refine Paired.step .ofExcept fun _ => .pure ⟨rfl, ?_⟩
          intro row isRow
          cases isRow
          exact isParent ▸ isKnown

/-- `issue_mandate`, with an agent and a parent that are judged alike. -/
theorem issueMandate_paired
    {env : Env}
    {now debitNow : Datetime}
    {args : IssueMandate}
    {newId : Id}
    {freshNonce : String}
    (alike : watch.Alike one two)
    (ofPrincipal : args.principalId = watch.principalId)
    (drawn : newId ∈ watch.draws)
    (nonceDrawn : (truthy args.nonce).getD freshNonce ∈ watch.nonces)
    (sameAgent :
      requireLiveAgent (fun _ => one) args.agentId =
        requireLiveAgent (fun _ => two) args.agentId)
    (parents :
      Paired watch.Alike (loadParent env (fun _ => one) now args)
        (loadParent env (fun _ => two) now args)
        fun left right => left = right ∧
          ∀ parent, left = some parent → parent.id ∈ watch.mandateIds) :
    Paired watch.Alike
      (issueMandate env (fun _ => one) now debitNow args newId freshNonce)
      (issueMandate env (fun _ => two) now debitNow args newId freshNonce)
      Eq := by
  unfold issueMandate
  dsimp only
  refine Paired.step .ofExcept fun _ => ?_
  rw [sameAgent]
  refine Paired.step .ofExcept fun agent => ?_
  refine Paired.step (.raiseWhen Iff.rfl) fun _ => ?_
  refine Paired.step .ofExcept fun _ => ?_
  refine parents.bind ?_
  rintro parent _ ⟨rfl, known⟩
  generalize (truthy args.nonce).getD freshNonce = nonce at nonceDrawn
  refine Paired.step (.raiseWhen ?_) fun _ => ?_
  · rw [ofPrincipal, alike.usedNonces.find usedNonces_keyIn]
  have books :
      Paired watch.Alike
        (addRow Db.usedNonces (fun db table => { db with usedNonces := table })
          { principalId := args.principalId, nonce := nonce })
        (addRow Db.usedNonces (fun db table => { db with usedNonces := table })
          { principalId := args.principalId, nonce := nonce })
        Eq := by
    rw [ofPrincipal]
    exact watches_usedNonces.add usedNonces_keyIn
  refine books.step fun _ => ?_
  rw [← alike.storedSignature ofPrincipal]
  refine Paired.step .ofExcept fun stored => ?_
  rw [← alike.verifyStoredMandate ofPrincipal]
  refine Paired.step .ofExcept fun _ => ?_
  refine Paired.get.bind fun left right alike => ?_
  refine Paired.step (.raiseWhen ?_) fun _ => ?_
  · refine alike.mandates.exists_iff ?_
    intro row isNonce
    simp [mandates, isNonce, nonceDrawn]
  refine Paired.step
    (watches_mandates.add (mandates_keyIn (.inr drawn))) fun _ => ?_
  have escrows :
      Paired watch.Alike
        (escrowWhenChild debitNow
          (issuedMandate args newId nonce stored.1 stored.2) parent)
        (escrowWhenChild debitNow
          (issuedMandate args newId nonce stored.1 stored.2) parent)
        Eq := by
    unfold escrowWhenChild
    cases parent with
    | none => exact .pure rfl
    | some parent =>
        refine Paired.step
          (watches_mandates.update
            (mandates_keyIn (.inl (known parent rfl))) fun _ => rfl)
          fun escrowed => ?_
        refine Paired.step (.orRaise rfl) fun row => ?_
        exact appendEvent_paired
  exact escrows.step fun _ => .pure rfl

end Functions

end Watch

end Crossing

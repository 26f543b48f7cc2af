import Crossing.Api

namespace Crossing

open Relational
open Relational.Transaction

/-!
# What the ledger's functions do

One specification for each function of the ledger: from a normal return, the
rows it found and the database it left.  Later modules use these
specifications and do not look into the functions again.
-/

/-- The logical operation of an attempt: its principal and non-empty key. -/
def Invocation.operation (invocation : Invocation) : Option (Id × String) :=
  (truthy invocation.idempotencyKey).map fun key =>
    (invocation.principalId, key)

/--
Two tables of claims agree except at one logical operation, where `value`
turns the old claim into the new one.
-/
def ClaimsChange
    (operation : Option (Id × String))
    (value :
      Id × String → Option IdempotencyRecord → Option IdempotencyRecord)
    (claims claims' : Table IdempotencyRecord) :
    Prop :=
  ∀ at_,
    claims'.find at_ =
      if operation = some at_ then
        value at_ (claims.find at_)
      else
        claims.find at_

namespace ClaimsChange

variable
  {operation : Option (Id × String)}
  {value : Id × String → Option IdempotencyRecord → Option IdempotencyRecord}
  {claims claims' : Table IdempotencyRecord}

/-- Without a logical operation no claim changes. -/
theorem none (value) (claims : Table IdempotencyRecord) :
    ClaimsChange none value claims claims := by
  intro at_
  simp

/-- The claim of the operation itself. -/
theorem find_self
    {at_ : Id × String}
    (change : ClaimsChange operation value claims claims')
    (isOperation : operation = some at_) :
    claims'.find at_ = value at_ (claims.find at_) := by
  rw [change at_, if_pos isOperation]

/-- The claim of another operation. -/
theorem find_of_ne
    {at_ : Id × String}
    (change : ClaimsChange operation value claims claims')
    (different : operation ≠ some at_) :
    claims'.find at_ = claims.find at_ := by
  rw [change at_, if_neg different]

end ClaimsChange

/-! ## Debit and claim -/

/-- A reservation that the debit of a mandate has just covered. -/
structure Debit
    (db : Db)
    (old : Mandate)
    (reservation : Reservation)
    (reservations : Table Reservation) :
    Prop where
  found : db.mandates.find old.id = some old
  covered : reservation.amountCents ≤ old.remainingCents
  nonnegative : 0 ≤ reservation.amountCents
  live : old.revoked = false
  belowMax : ∀ maxCalls ∈ old.maxCalls, old.callsUsed < maxCalls
  ofMandate : reservation.mandateId = old.id
  ofPrincipal : reservation.principalId = old.principalId
  held : reservation.status = .held
  inserted : db.reservations.insert? reservation = some reservations

/-- `reserve` debits the mandate, stores a held reservation and its event. -/
theorem reserve_ok
    {now : Datetime}
    {mandate debitedMandate : Mandate}
    {amountCents : Cents}
    {idempotencyKey nonce : Option String}
    {taskId : Option Id}
    {recordDeny : Bool}
    {newId : Id}
    {reservation : Reservation}
    {db db' : Db}
    (returned :
      exec
          (reserve now mandate amountCents idempotencyKey nonce taskId
            recordDeny newId)
          db =
        (.ok (reservation, debitedMandate), db')) :
    ∃ old reservations,
      Debit db old reservation reservations ∧
        old.id = mandate.id ∧
        debitedMandate = debited amountCents old ∧
        reservation.id = newId ∧
        reservation.amountCents = amountCents ∧
        notExpired now old = true ∧
        db' =
          { db with
            mandates := db.mandates.put (debited amountCents old)
            reservations := reservations
            ledgerEvents := db.ledgerEvents ++
              [reservationEvent reservation .reserve
                (some (debited amountCents old).remainingCents) taskId] } := by
  obtain ⟨_, _, checked, rest⟩ := bind_ok returned
  obtain ⟨notNegative, rfl⟩ := raiseWhen_ok checked
  obtain ⟨row, _, updateRun, decided⟩ := bind_ok rest
  rcases updateRow_ok updateRun with
    ⟨rfl, rfl⟩ | ⟨old, found, passes, rfl, rfl⟩
  · -- The debit matched no row: both branches end in a denial.
    cases recordDeny <;> simp [appendEvent] at decided
  · obtain ⟨_, _, addRun, rest⟩ := bind_ok decided
    obtain ⟨reservations, inserted, rfl⟩ := addRow_ok addRun
    obtain ⟨_, _, eventRun, rest⟩ := bind_ok rest
    cases eventRun
    cases rest
    have sameId : old.id = mandate.id := Table.key_of_find found
    simp only [debitGuard, ge_iff_le, Bool.and_eq_true, decide_eq_true_eq,
      Bool.not_eq_true', Option.all_eq_true] at passes
    refine ⟨old, reservations, ?_, sameId, rfl, rfl, rfl, passes.2, rfl⟩
    exact
      { found := sameId ▸ found
        covered := passes.1.1.1
        nonnegative := not_lt.mp notNegative
        live := passes.1.1.2
        belowMax := passes.1.2
        ofMandate := rfl
        ofPrincipal := rfl
        held := rfl
        inserted := inserted }

/-- Nothing changed, except that a deny event may have been appended. -/
inductive DenialRecorded (db : Db) : Db → Prop where
  | unrecorded : DenialRecorded db db
  | recorded (event : LedgerEvent) (isDeny : event.kind = .deny) :
      DenialRecorded db
        { db with ledgerEvents := db.ledgerEvents ++ [event] }

/-- A denied `reserve` leaves at most a deny event. -/
theorem reserve_denied
    {now : Datetime}
    {mandate : Mandate}
    {amountCents : Cents}
    {idempotencyKey nonce : Option String}
    {taskId : Option Id}
    {recordDeny : Bool}
    {newId : Id}
    {exception : Raised}
    {db db' : Db}
    (raised :
      exec
          (reserve now mandate amountCents idempotencyKey nonce taskId
            recordDeny newId)
          db =
        (.error exception, db')) :
    (∃ outcome, exception = .policyDenied outcome ∧ DenialRecorded db db') ∨
      exception = .integrityError := by
  rcases bind_error raised with checked | ⟨_, _, checked, rest⟩
  · obtain ⟨_, rfl, rfl⟩ := raiseWhen_error checked
    exact .inl ⟨_, rfl, .unrecorded⟩
  obtain ⟨_, rfl⟩ := raiseWhen_ok checked
  rcases bind_error rest with updateRaised | ⟨row, between, updateRun, decided⟩
  · simp only [updateRow, exec_bind, exec_get] at updateRaised
    split at updateRaised <;> cases updateRaised
  rcases updateRow_ok updateRun with
    ⟨rfl, rfl⟩ | ⟨old, found, passes, rfl, rfl⟩
  · left
    cases recordDeny with
    | false =>
        cases decided
        exact ⟨_, rfl, .unrecorded⟩
    | true =>
        cases decided
        exact ⟨_, rfl, .recorded _ rfl⟩
  · right
    rcases bind_error decided with addRaised | ⟨_, _, _, rest⟩
    · exact (addRow_error addRaised).1
    · cases rest

/-- The claim that an attempt holds while its outcome is open. -/
def openClaim
    (requestHash : Option String)
    (operation : Id × String) :
    IdempotencyRecord where
  principalId := operation.1
  idempotencyKey := operation.2
  requestHash := requestHash
  status := .inProgress
  resultJson := none

/-- `_claim_idempotency` stores an open claim where there was none. -/
theorem claimIdempotency_ok
    {view db db' : Db}
    {principalId : Id}
    {idempotencyKey : String}
    {requestHash : Option String}
    {done : Unit}
    (returned :
      exec (claimIdempotency view principalId idempotencyKey requestHash)
          db =
        (.ok done, db')) :
    ∃ claims,
      db.idempotencyRecords.insert?
          (openClaim requestHash (principalId, idempotencyKey)) =
        some claims ∧
        db' = { db with idempotencyRecords := claims } := by
  rcases tryCatch_savepoint_ok returned with
    added | ⟨exception, _, _, handled⟩
  · obtain ⟨claims, inserted, rfl⟩ := addRow_ok added
    exact ⟨claims, inserted, rfl⟩
  · cases exception <;> cases handled

/-- An attempt that `reserve_and_commit` has just opened. -/
structure Opened
    (db : Db)
    (old : Mandate)
    (reservation : Reservation)
    (invocation : Invocation)
    (reservations : Table Reservation)
    (invocations : Table Invocation)
    (claims : Table IdempotencyRecord) :
    Prop where
  debit : Debit db old reservation reservations
  ofReservation : invocation.reservationId = some reservation.id
  ofMandate : invocation.mandateId = old.id
  ofPrincipal : invocation.principalId = old.principalId
  sameAmount : invocation.amountCents = reservation.amountCents
  reserved : invocation.status = .reserved
  inserted : db.invocations.insert? invocation = some invocations
  unclaimed :
    ∀ at_, invocation.operation = some at_ →
      db.idempotencyRecords.find at_ = none
  claimed :
    ClaimsChange invocation.operation
      (fun at_ _ => some (openClaim invocation.requestHash at_))
      db.idempotencyRecords claims

/-- The database after an attempt was opened. -/
abbrev openedDb
    (db : Db)
    (old : Mandate)
    (reservation : Reservation)
    (taskId : Option Id)
    (reservations : Table Reservation)
    (invocations : Table Invocation)
    (claims : Table IdempotencyRecord) :
    Db :=
  { db with
    mandates := db.mandates.put (debited reservation.amountCents old)
    reservations := reservations
    ledgerEvents := db.ledgerEvents ++
      [reservationEvent reservation .reserve
        (some (debited reservation.amountCents old).remainingCents) taskId]
    idempotencyRecords := claims
    invocations := invocations }

/-- The savepoint of `reserve_and_commit` opens an attempt. -/
theorem claimAndReserve_ok
    {view db db' : Db}
    {now : Datetime}
    {mandate debitedMandate : Mandate}
    {amountCents : Cents}
    {idempotencyKey nonce : Option String}
    {tool server : String}
    {requestHash : Option String}
    {taskId : Option Id}
    {reservationNewId invocationNewId : Id}
    {reservation : Reservation}
    {invocation : Invocation}
    (returned :
      exec
          (claimAndReserve view now mandate amountCents idempotencyKey nonce
            tool server requestHash taskId reservationNewId invocationNewId)
          db =
        (.ok (reservation, invocation, debitedMandate), db'))
    (samePrincipal :
      ∀ row, db.mandates.find mandate.id = some row →
        row.principalId = mandate.principalId) :
    ∃ old reservations invocations claims,
      Opened db old reservation invocation reservations invocations claims ∧
        old.id = mandate.id ∧
        debitedMandate = debited amountCents old ∧
        notExpired now old = true ∧
        invocation =
          reservedInvocation invocationNewId debitedMandate reservation
            taskId tool server requestHash idempotencyKey amountCents ∧
        db' =
          openedDb db old reservation taskId reservations invocations
            claims := by
  obtain ⟨_, claimedDb, claimRun, rest⟩ := bind_ok returned
  -- The claim step leaves the tables that `reserve` reads as they were.
  have claimStep :
      ∃ claims,
        claimedDb = { db with idempotencyRecords := claims } ∧
          (∀ key, truthy idempotencyKey = some key →
            db.idempotencyRecords.insert?
                (openClaim requestHash (mandate.principalId, key)) =
              some claims) ∧
          (truthy idempotencyKey = none →
            claims = db.idempotencyRecords) := by
    unfold claimWhenKeyed at claimRun
    cases keyed : truthy idempotencyKey with
    | none =>
        rw [keyed] at claimRun
        cases claimRun
        exact ⟨db.idempotencyRecords, rfl, by simp, by simp⟩
    | some key =>
        rw [keyed] at claimRun
        obtain ⟨claims, inserted, shape⟩ := claimIdempotency_ok claimRun
        refine ⟨claims, shape, ?_, by simp⟩
        intro key' same
        cases same
        exact inserted
  obtain ⟨claims, rfl, keyClaimed, keyless⟩ := claimStep
  obtain ⟨⟨reservation', mandate'⟩, _, reserveRun, rest⟩ := bind_ok rest
  obtain ⟨old, reservations, debit, sameId, rfl, _, rfl, inTime, rfl⟩ :=
    reserve_ok reserveRun
  obtain ⟨_, _, addRun, rest⟩ := bind_ok rest
  obtain ⟨invocations, inserted, rfl⟩ := addRow_ok addRun
  cases rest
  have foundOld : db.mandates.find mandate.id = some old :=
    sameId ▸ debit.found
  have principal : old.principalId = mandate.principalId :=
    samePrincipal old foundOld
  have operation :
      (reservedInvocation invocationNewId
          (debited reservation.amountCents old) reservation taskId tool
          server requestHash idempotencyKey
          reservation.amountCents).operation =
        (truthy idempotencyKey).map fun key => (mandate.principalId, key) := by
    rw [← principal]
    rfl
  refine
    ⟨old, reservations, invocations, claims, ?_, sameId, rfl, inTime, rfl,
      rfl⟩
  refine
    { debit := { debit with }
      ofReservation := rfl
      ofMandate := rfl
      ofPrincipal := rfl
      sameAmount := rfl
      reserved := rfl
      inserted := inserted
      unclaimed := ?_
      claimed := ?_ }
  · intro at_ isOperation
    rw [operation] at isOperation
    obtain ⟨key, keyed, rfl⟩ := Option.map_eq_some_iff.mp isOperation
    exact (Table.insert?_eq_some (keyClaimed key keyed)).1
  · rw [operation]
    cases keyed : truthy idempotencyKey with
    | none =>
        rw [keyless keyed]
        exact ClaimsChange.none _ _
    | some key =>
        intro at_
        rw [Table.find_insert (keyClaimed key keyed)]
        by_cases isKey : (mandate.principalId, key) = at_
        · subst isKey
          simp [openClaim, reservedInvocation]
        · simp [isKey, openClaim]

/-- A `reserve_and_commit` that returns has run its savepoint to the end. -/
theorem reserveAndCommit_ok
    {view db db' : Db}
    {now : Datetime}
    {mandate : Mandate}
    {amountCents : Cents}
    {idempotencyKey nonce : Option String}
    {tool server : String}
    {requestHash : Option String}
    {taskId : Option Id}
    {reservationNewId invocationNewId : Id}
    {opened : Reservation × Invocation × Mandate}
    (returned :
      exec
          (reserveAndCommit view now mandate amountCents idempotencyKey nonce
            tool server requestHash taskId reservationNewId invocationNewId)
          db =
        (.ok opened, db')) :
    exec
        (claimAndReserve view now mandate amountCents idempotencyKey nonce
          tool server requestHash taskId reservationNewId invocationNewId)
        db =
      (.ok opened, db') := by
  rcases tryCatch_savepoint_ok returned with
    finished | ⟨exception, _, _, handled⟩
  · exact finished
  · cases exception with
    | policyDenied outcome =>
        obtain ⟨_, _, readRun, rest⟩ := bind_ok handled
        cases readRun
        obtain ⟨_, _, present, decided⟩ := bind_ok rest
        by_cases recorded : outcome.reason ∈ recordedDenials <;>
          simp [recorded, appendEvent] at decided
    | _ => cases handled

/-- The claim of another attempt that ended a `reserve_and_commit`. -/
structure TakenBy
    (view : Db)
    (principalId : Id)
    (idempotencyKey requestHash : Option String)
    (record : IdempotencyRecord) :
    Prop where
  found :
    ∃ key, truthy idempotencyKey = some key ∧
      view.idempotencyRecords.find (principalId, key) = some record
  sameRequest :
    ¬ ∃ stored ∈ truthy record.requestHash,
      ∃ requested ∈ truthy requestHash, stored ≠ requested
  completed : record.status = .completed
  hasResult : record.resultJson.isSome = true

/-- A claim conflict that ends in a replay found a completed claim. -/
theorem existingClaim_replay
    {existing : Option IdempotencyRecord}
    {requestHash : Option String}
    {record : IdempotencyRecord}
    (replays :
      existingClaim existing requestHash = .idempotencyReplay record) :
    existing = some record ∧
      (¬ ∃ stored ∈ truthy record.requestHash,
        ∃ requested ∈ truthy requestHash, stored ≠ requested) ∧
      record.status = .completed ∧
      record.resultJson.isSome = true := by
  unfold existingClaim at replays
  cases existing with
  | none => cases replays
  | some stored =>
      by_cases conflicts :
          ∃ hash ∈ truthy stored.requestHash,
            ∃ requested ∈ truthy requestHash, hash ≠ requested
      · simp only [conflicts, ↓reduceIte] at replays
        cases replays
      · by_cases usable :
            stored.status = .completed ∧ stored.resultJson.isSome = true
        · simp only [conflicts, usable, and_self, ↓reduceIte] at replays
          cases replays
          exact ⟨rfl, conflicts, usable⟩
        · simp only [conflicts, usable, ↓reduceIte] at replays
          cases replays

/-- The exceptions of the savepoint of `reserve_and_commit`. -/
theorem claimAndReserve_error
    {view db db' : Db}
    {now : Datetime}
    {mandate : Mandate}
    {amountCents : Cents}
    {idempotencyKey nonce : Option String}
    {tool server : String}
    {requestHash : Option String}
    {taskId : Option Id}
    {reservationNewId invocationNewId : Id}
    {record : IdempotencyRecord}
    (raised :
      exec
          (claimAndReserve view now mandate amountCents idempotencyKey nonce
            tool server requestHash taskId reservationNewId invocationNewId)
          db =
        (.error (.idempotencyReplay record), db')) :
    TakenBy view mandate.principalId idempotencyKey requestHash record := by
  rcases bind_error raised with claimRaised | ⟨_, _, _, rest⟩
  · unfold claimWhenKeyed at claimRaised
    cases keyed : truthy idempotencyKey with
    | none =>
        rw [keyed] at claimRaised
        cases claimRaised
    | some key =>
        rw [keyed] at claimRaised
        obtain ⟨thrown, _, addRaised, handled⟩ :=
          tryCatch_savepoint_error claimRaised
        obtain ⟨rfl, _⟩ := addRow_error addRaised
        have replays :
            existingClaim
                (view.idempotencyRecords.find (mandate.principalId, key))
                requestHash =
              .idempotencyReplay record := by
          simpa using congrArg Prod.fst handled
        obtain ⟨found, sameRequest, completed, hasResult⟩ :=
          existingClaim_replay replays
        exact ⟨⟨key, keyed, found⟩, sameRequest, completed, hasResult⟩
  · rcases bind_error rest with reserveRaised | ⟨_, _, _, rest⟩
    · rcases reserve_denied reserveRaised with ⟨_, shape, _⟩ | shape <;>
        cases shape
    · rcases bind_error rest with addRaised | ⟨_, _, _, rest⟩
      · cases (addRow_error addRaised).1
      · cases rest

/--
A `reserve_and_commit` that raises a replay or a denial leaves at most a deny
event, and a replay names a completed claim.
-/
theorem reserveAndCommit_error
    {view db db' : Db}
    {now : Datetime}
    {mandate : Mandate}
    {amountCents : Cents}
    {idempotencyKey nonce : Option String}
    {tool server : String}
    {requestHash : Option String}
    {taskId : Option Id}
    {reservationNewId invocationNewId : Id}
    {exception : Raised}
    (raised :
      exec
          (reserveAndCommit view now mandate amountCents idempotencyKey nonce
            tool server requestHash taskId reservationNewId invocationNewId)
          db =
        (.error exception, db')) :
    DenialRecorded db db' ∧
      ∀ record, exception = .idempotencyReplay record →
        db' = db ∧
          TakenBy view mandate.principalId idempotencyKey requestHash
            record := by
  obtain ⟨thrown, _, bodyRaised, handled⟩ := tryCatch_savepoint_error raised
  cases thrown with
  | policyDenied outcome =>
      rcases bind_error handled with readRaised | ⟨_, _, readRun, rest⟩
      · cases readRaised
      cases readRun
      rcases bind_error rest with missing | ⟨row, _, present, decided⟩
      · obtain ⟨_, rfl, rfl⟩ := orRaise_error missing
        refine ⟨.unrecorded, ?_⟩
        intro record replays
        cases replays
      obtain ⟨_, rfl⟩ := orRaise_ok present
      by_cases recorded : outcome.reason ∈ recordedDenials
      · simp only [recorded, ↓reduceIte] at decided
        cases decided
        refine ⟨.recorded _ rfl, ?_⟩
        intro record replays
        cases replays
      · simp only [recorded, ↓reduceIte] at decided
        cases decided
        refine ⟨.unrecorded, ?_⟩
        intro record replays
        cases replays
  | idempotencyReplay taken =>
      cases handled
      refine ⟨.unrecorded, ?_⟩
      intro record replays
      cases replays
      exact ⟨rfl, claimAndReserve_error bodyRaised⟩
  | _ =>
      cases handled
      refine ⟨.unrecorded, ?_⟩
      intro record replays
      cases replays

/-! ## Compare-and-set, refund and claim -/

/-- The mandates after a refund of a reservation. -/
abbrev refundedMandates
    (mandates : Table Mandate)
    (reservation : Reservation) :
    Table Mandate :=
  mandates.modify reservation.mandateId (refunded reservation.amountCents)

/-- `_refund_mandate` credits the mandate of the reservation. -/
theorem refundMandate_ok
    {reservation : Reservation}
    {remaining : Option Cents}
    {db db' : Db}
    (returned :
      exec (refundMandate reservation) db = (.ok remaining, db')) :
    db' =
      { db with mandates := refundedMandates db.mandates reservation } := by
  obtain ⟨row, _, updateRun, rest⟩ := bind_ok returned
  cases rest
  rcases updateRow_ok updateRun with
    ⟨rfl, rfl⟩ | ⟨old, found, _, rfl, rfl⟩
  · cases found : db'.mandates.find reservation.mandateId with
    | none => simp [refundedMandates, Table.modify, found]
    | some old =>
        simp [updateRow, Table.update?, found] at updateRun
  · simp [refundedMandates, Table.modify_of_find found]

/-- What is left on the mandate after a refund of a reservation. -/
abbrev refundedRemaining
    (mandates : Table Mandate)
    (reservation : Reservation) :
    Option Cents :=
  ((refundedMandates mandates reservation).find reservation.mandateId).map
    Mandate.remainingCents

/-- `_refund_mandate` returns what is left. -/
theorem refundMandate_remaining
    {reservation : Reservation}
    {remaining : Option Cents}
    {db db' : Db}
    (returned :
      exec (refundMandate reservation) db = (.ok remaining, db')) :
    remaining = refundedRemaining db.mandates reservation := by
  obtain ⟨row, _, updateRun, rest⟩ := bind_ok returned
  cases rest
  unfold refundedRemaining refundedMandates
  rcases updateRow_ok updateRun with
    ⟨rfl, rfl⟩ | ⟨old, found, _, rfl, rfl⟩
  · cases found : db'.mandates.find reservation.mandateId with
    | none => simp [Table.modify, found]
    | some old => simp [updateRow, Table.update?, found] at updateRun
  · have isOld : old.id = reservation.mandateId := Table.key_of_find found
    rw [Table.modify_of_find found, Table.find_put, found]
    simp [refunded, isOld]

/-- `_clear_logical_operation` deletes the claim of the attempt. -/
theorem clearLogicalOperation_ok
    {invocation : Invocation}
    {db db' : Db}
    {done : Unit}
    (returned :
      exec (clearLogicalOperation invocation) db = (.ok done, db')) :
    ∃ claims,
      ClaimsChange invocation.operation (fun _ _ => none)
          db.idempotencyRecords claims ∧
        db' = { db with idempotencyRecords := claims } := by
  unfold clearLogicalOperation at returned
  cases keyed : truthy invocation.idempotencyKey with
  | none =>
      rw [keyed] at returned
      cases returned
      refine ⟨_, ?_, rfl⟩
      simpa [Invocation.operation, keyed] using ClaimsChange.none _ _
  | some key =>
      rw [keyed] at returned
      cases returned
      refine ⟨_, ?_, rfl⟩
      intro at_
      simp only [Invocation.operation, keyed, Option.map_some,
        Option.some.injEq]
      rw [Table.find_erase]
      by_cases isKey : (invocation.principalId, key) = at_
      · simp [isKey]
      · simp [isKey, Ne.symm isKey]

/-- The claim of a completed attempt. -/
abbrev completion
    (invocation : Invocation)
    (payload : Option InvokeResult)
    (at_ : Id × String)
    (claim : Option IdempotencyRecord) :
    Option IdempotencyRecord :=
  some (completedClaim invocation at_.2 payload claim)

/-- `_complete_logical_operation` completes the claim of the attempt. -/
theorem completeLogicalOperation_ok
    {invocation : Invocation}
    {payload : Option InvokeResult}
    {db db' : Db}
    {done : Unit}
    (returned :
      exec (completeLogicalOperation invocation payload) db =
        (.ok done, db')) :
    ∃ claims,
      ClaimsChange invocation.operation (completion invocation payload)
          db.idempotencyRecords claims ∧
        db' = { db with idempotencyRecords := claims } := by
  unfold completeLogicalOperation at returned
  cases keyed : truthy invocation.idempotencyKey with
  | none =>
      rw [keyed] at returned
      cases returned
      refine ⟨_, ?_, rfl⟩
      simpa [Invocation.operation, keyed] using ClaimsChange.none _ _
  | some key =>
      rw [keyed] at returned
      obtain ⟨_, _, readRun, rest⟩ := bind_ok returned
      cases readRun
      have operation :
          invocation.operation = some (invocation.principalId, key) := by
        simp [Invocation.operation, keyed]
      cases stored :
          db.idempotencyRecords.find (invocation.principalId, key) with
      | none =>
          simp only [stored] at rest
          obtain ⟨claims, inserted, rfl⟩ := addRow_ok rest
          refine ⟨claims, ?_, rfl⟩
          intro at_
          rw [Table.find_insert inserted, operation]
          by_cases isKey : (invocation.principalId, key) = at_
          · subst isKey
            simp [completion, completedClaim, stored]
          · simp [completedClaim, isKey]
      | some claim =>
          simp only [stored] at rest
          cases rest
          have claimKey : Keyed.key claim = (invocation.principalId, key) :=
            Table.key_of_find stored
          refine ⟨_, ?_, rfl⟩
          intro at_
          rw [Table.find_put, operation]
          have completedKey :
              Keyed.key (completedClaim invocation key payload claim) =
                (invocation.principalId, key) :=
            claimKey
          rw [completedKey]
          by_cases isKey : (invocation.principalId, key) = at_
          · subst isKey
            simp [completion, stored]
          · simp [isKey]

/-! ## Receipts and billing -/

/-- The receipt that a finalizer ends up with, and how it got it. -/
inductive ReceiptStep
    (env : Env)
    (callbacks : FinalizeCallbacks)
    (stored : Table Receipt)
    (reservationId : Id) :
    Table Receipt → Option Receipt → Prop where
  | skipped (noReceipt : callbacks.receiptFn = none) :
      ReceiptStep env callbacks stored reservationId stored none
  | issued
      {args : ReceiptArgs}
      {receipts : Table Receipt}
      (given : callbacks.receiptFn = some args)
      (unissued :
        ∀ reservation, args.reservationId = some reservation →
          ∀ row ∈ stored.rows, row.reservationId ≠ some reservation)
      (inserted : stored.insert? (issuedReceipt env args) = some receipts) :
      ReceiptStep env callbacks stored reservationId receipts
        (some (issuedReceipt env args))
  | known
      {receipt : Receipt}
      (member : receipt ∈ stored.rows)
      (ofReservation : receipt.reservationId = some reservationId) :
      ReceiptStep env callbacks stored reservationId stored (some receipt)

/-- The accounts after the platform fee of an amount. -/
def feeCharged
    (env : Env)
    (accounts : Table Account)
    (account : Option Account)
    (amountCents : Cents) :
    Table Account :=
  match account with
  | none => accounts
  | some account =>
      if feeMicrocentsFor env amountCents ≤ 0 then
        accounts
      else
        accounts.modify account.id fun row =>
          { row with
            feeMicrocents :=
              row.feeMicrocents + feeMicrocentsFor env amountCents }

/-- The accounts are as they were, or one was charged the fee of an amount. -/
def Charged (env : Env) (accounts charged : Table Account) : Prop :=
  charged = accounts ∨
    ∃ account amountCents,
      charged = feeCharged env accounts account amountCents

/-- The outbox row that follows a receipt, and its fee. -/
inductive BillingStep
    (env : Env)
    (callbacks : FinalizeCallbacks)
    (principals : Table Principal)
    (stored : Table Outbox)
    (charged : Table Account) :
    Option Receipt → Table Outbox → Table Account → Prop where
  | skipped
      {receipt : Option Receipt}
      (nothing : callbacks.billingFn = none ∨ receipt = none) :
      BillingStep env callbacks principals stored charged receipt stored
        charged
  | already
      {receipt : Receipt}
      {row : Outbox}
      (member : row ∈ stored.rows)
      (ofReceipt : row.receiptId = receipt.id) :
      BillingStep env callbacks principals stored charged (some receipt)
        stored charged
  | enqueued
      {args : BillingArgs}
      {receipt : Receipt}
      {outbox : Table Outbox}
      {account : Option Account}
      (given : callbacks.billingFn = some args)
      (isAccount :
        account =
          (principals.find args.principalId).bind fun principal =>
            charged.find principal.accountId)
      (unbilled : ∀ row ∈ stored.rows, row.receiptId ≠ receipt.id)
      (inserted :
        stored.insert?
            (pendingOutbox env account receipt.id args.amountCents
              args.principalId args.newId) =
          some outbox) :
      BillingStep env callbacks principals stored charged (some receipt)
        outbox (feeCharged env charged account args.amountCents)

/-- Billing charges at most one fee. -/
theorem BillingStep.charged
    {env : Env}
    {callbacks : FinalizeCallbacks}
    {principals : Table Principal}
    {stored outbox : Table Outbox}
    {accounts charged : Table Account}
    {receipt : Option Receipt}
    (billing :
      BillingStep env callbacks principals stored accounts receipt outbox
        charged) :
    Charged env accounts charged := by
  cases billing with
  | skipped => exact .inl rfl
  | already => exact .inl rfl
  | enqueued => exact .inr ⟨_, _, rfl⟩

/-- `issue` stores the first receipt of its reservation. -/
theorem issue_ok
    {env : Env}
    {args : ReceiptArgs}
    {receipt : Receipt}
    {db db' : Db}
    (returned : exec (issue env args) db = (.ok receipt, db')) :
    ∃ receipts,
      db.receipts.insert? (issuedReceipt env args) = some receipts ∧
        (∀ reservation, args.reservationId = some reservation →
          ∀ row ∈ db.receipts.rows, row.reservationId ≠ some reservation) ∧
        receipt = issuedReceipt env args ∧
        db' = { db with receipts := receipts } := by
  obtain ⟨_, _, readRun, afterRead⟩ := bind_ok returned
  cases readRun
  obtain ⟨_, _, checked, afterCheck⟩ := bind_ok afterRead
  obtain ⟨unissued, rfl⟩ := raiseWhen_ok checked
  obtain ⟨_, _, addRun, afterAdd⟩ := bind_ok afterCheck
  obtain ⟨receipts, inserted, rfl⟩ := addRow_ok addRun
  cases afterAdd
  refine ⟨receipts, inserted, ?_, rfl, rfl⟩
  intro reservation isReservation row member same
  exact unissued ⟨reservation, isReservation, row, member, same⟩

/-- `receipt_fn` issues the receipt it describes. -/
theorem runReceiptFn_ok
    (reservationId : Id)
    {env : Env}
    {callbacks : FinalizeCallbacks}
    {receipt : Option Receipt}
    {db db' : Db}
    (returned :
      exec (runReceiptFn env callbacks) db = (.ok receipt, db')) :
    ∃ receipts,
      ReceiptStep env callbacks db.receipts reservationId receipts
          receipt ∧
        receipt = callbacks.receiptFn.map (issuedReceipt env) ∧
        db' = { db with receipts := receipts } := by
  unfold runReceiptFn at returned
  cases given : callbacks.receiptFn with
  | none =>
      rw [given] at returned
      cases returned
      exact ⟨_, .skipped given, rfl, rfl⟩
  | some args =>
      rw [given] at returned
      obtain ⟨issued, issueRun, rfl⟩ := map_ok returned
      obtain ⟨receipts, inserted, unissued, rfl, rfl⟩ := issue_ok issueRun
      exact ⟨receipts, .issued given unissued inserted, rfl, rfl⟩

/-- `enqueue` finds the outbox row of a receipt, or adds it with its fee. -/
theorem enqueue_ok
    {env : Env}
    {receiptId : Id}
    {amountCents : Cents}
    {principalId newId : Id}
    {row : Outbox}
    {db db' : Db}
    (returned :
      exec (enqueue env receiptId amountCents principalId newId) db =
        (.ok row, db')) :
    (db' = db ∧
      ∃ known ∈ db.billingOutbox.rows, known.receiptId = receiptId) ∨
    (∃ outbox,
      (∀ known ∈ db.billingOutbox.rows, known.receiptId ≠ receiptId) ∧
        db.billingOutbox.insert?
            (pendingOutbox env (accountForPrincipal db principalId)
              receiptId amountCents principalId newId) =
          some outbox ∧
        db' =
          { db with
            billingOutbox := outbox
            accounts :=
              feeCharged env db.accounts (accountForPrincipal db principalId)
                amountCents }) := by
  obtain ⟨_, _, readRun, afterRead⟩ := bind_ok returned
  cases readRun
  cases existing :
      db.billingOutbox.rows.find? fun row => row.receiptId = receiptId with
  | some known =>
      simp only [existing] at afterRead
      cases afterRead
      left
      exact ⟨rfl, row, List.mem_of_find?_eq_some existing,
        by simpa using List.find?_some existing⟩
  | none =>
      simp only [existing] at afterRead
      right
      obtain ⟨_, _, addRun, afterAdd⟩ := bind_ok afterRead
      obtain ⟨outbox, inserted, rfl⟩ := addRow_ok addRun
      refine ⟨outbox, by simpa using existing, inserted, ?_⟩
      unfold feeCharged
      cases account : accountForPrincipal db principalId with
      | none =>
          simp only [account] at afterAdd
          cases afterAdd
          rfl
      | some account =>
          simp only [account, applyPlatformFee] at afterAdd
          by_cases free : feeMicrocentsFor env amountCents ≤ 0
          · simp only [free, ↓reduceIte] at afterAdd
            cases afterAdd
            simp [free]
          · simp only [free, ↓reduceIte] at afterAdd
            cases afterAdd
            simp [free]

/-- `billing_fn` enqueues one outbox row for the receipt. -/
theorem runBillingFn_ok
    {env : Env}
    {callbacks : FinalizeCallbacks}
    {receipt : Option Receipt}
    {row : Option Outbox}
    {db db' : Db}
    (returned :
      exec (runBillingFn env callbacks receipt) db = (.ok row, db')) :
    ∃ outbox accounts,
      BillingStep env callbacks db.principals db.billingOutbox db.accounts
          receipt outbox accounts ∧
        db' = { db with billingOutbox := outbox, accounts := accounts } := by
  unfold runBillingFn at returned
  cases given : callbacks.billingFn with
  | none =>
      rw [given] at returned
      cases returned
      exact ⟨_, _, .skipped (.inl given), rfl⟩
  | some args =>
      cases receipt with
      | none =>
          rw [given] at returned
          cases returned
          exact ⟨_, _, .skipped (.inr rfl), rfl⟩
      | some receipt =>
          rw [given] at returned
          obtain ⟨_, enqueueRun, _⟩ := map_ok returned
          rcases enqueue_ok enqueueRun with
            ⟨rfl, known, member, ofReceipt⟩ |
            ⟨outbox, unbilled, inserted, rfl⟩
          · exact ⟨_, _, .already member ofReceipt, rfl⟩
          · exact ⟨_, _, .enqueued given rfl unbilled inserted, rfl⟩

/-! ## Finalizers -/

/-- A held reservation and its attempt that have reached success together. -/
structure Settled
    (env : Env)
    (callbacks : FinalizeCallbacks)
    (payload : Option Receipt → Option InvokeResult)
    (db : Db)
    (reservation : Reservation)
    (invocation : Invocation)
    (receipt : Option Receipt)
    (receipts : Table Receipt)
    (outbox : Table Outbox)
    (accounts : Table Account)
    (claims : Table IdempotencyRecord) :
    Prop where
  reservationFound : db.reservations.find reservation.id = some reservation
  held : reservation.status = .held
  invocationFound : db.invocations.find invocation.id = some invocation
  receiptStep :
    ReceiptStep env callbacks db.receipts reservation.id receipts receipt
  billingStep :
    BillingStep env callbacks db.principals db.billingOutbox db.accounts
      receipt outbox accounts
  completed :
    ClaimsChange invocation.operation
      (completion invocation (payload receipt)) db.idempotencyRecords claims

/-- What is left on the mandate of a reservation, as the session shows it. -/
abbrev sessionRemaining
    (sessionMandate : Id → Option Mandate)
    (reservation : Reservation) :
    Option Cents :=
  (sessionMandate reservation.mandateId).map Mandate.remainingCents

/-- The database after a settlement. -/
abbrev settledDb
    (db : Db)
    (reservation : Reservation)
    (invocation : Invocation)
    (toStatus : InvocationStatus)
    (remaining : Option Cents)
    (receipts : Table Receipt)
    (outbox : Table Outbox)
    (accounts : Table Account)
    (claims : Table IdempotencyRecord)
    (evidence : List ReconciliationEvent) :
    Db :=
  { db with
    reservations :=
      db.reservations.put { reservation with status := .committed }
    invocations := db.invocations.put { invocation with status := toStatus }
    ledgerEvents := db.ledgerEvents ++
      [reservationEvent reservation .commit remaining invocation.taskId]
    receipts := receipts
    billingOutbox := outbox
    accounts := accounts
    idempotencyRecords := claims
    reconciliationEvents := db.reconciliationEvents ++ evidence }

/-- The savepoint of `finalize_success` settles the attempt. -/
theorem successUnit_ok
    {env : Env}
    {sessionMandate : Id → Option Mandate}
    {reservation : Reservation}
    {invocation : Invocation}
    {callbacks : FinalizeCallbacks}
    {result : FinalizeResult}
    {db db' : Db}
    (returned :
      exec
          (successUnit env sessionMandate reservation invocation callbacks)
          db =
        (.ok result, db')) :
    ∃ row attempt receipt receipts outbox accounts claims,
      Settled env callbacks (callbacks.payload env) db row attempt receipt
          receipts outbox accounts claims ∧
        row.id = reservation.id ∧
        attempt.id = invocation.id ∧
        attempt.status ∈
          [InvocationStatus.executing, .executedOk] ∧
        result.won = true ∧
        result.receipt = receipt ∧
        receipt = callbacks.receiptFn.map (issuedReceipt env) ∧
        db' =
          settledDb db row attempt .committed
            (sessionRemaining sessionMandate row) receipts outbox accounts
            claims [] := by
  obtain ⟨row, rowFound, held, rest⟩ := updateRow_orRaise_ok returned
  obtain ⟨attempt, attemptFound, allowed, rest⟩ := updateRow_orRaise_ok rest
  obtain ⟨_, _, eventRun, afterEvent⟩ := bind_ok rest
  cases eventRun
  obtain ⟨receipt, _, receiptRun, afterReceipt⟩ := bind_ok afterEvent
  obtain ⟨receipts, receiptStep, isReceipt, rfl⟩ :=
    runReceiptFn_ok row.id receiptRun
  obtain ⟨_, _, billingRun, afterBilling⟩ := bind_ok afterReceipt
  obtain ⟨outbox, accounts, billingStep, rfl⟩ := runBillingFn_ok billingRun
  obtain ⟨_, _, completeRun, afterComplete⟩ := bind_ok afterBilling
  obtain ⟨claims, completed, rfl⟩ := completeLogicalOperation_ok completeRun
  cases afterComplete
  have rowId : row.id = reservation.id := Table.key_of_find rowFound
  have attemptId : attempt.id = invocation.id :=
    Table.key_of_find attemptFound
  refine
    ⟨row, attempt, receipt, receipts, outbox, accounts, claims, ?_,
      rowId, attemptId, by simpa using allowed, rfl, rfl, isReceipt,
      by simp [settledDb]; rfl⟩
  exact
    { reservationFound := rowId ▸ rowFound
      held := by simpa using held
      invocationFound := attemptId ▸ attemptFound
      receiptStep := receiptStep
      billingStep := billingStep
      completed := completed }

/--
A finalizer that returns has lost, and then nothing changed, or its savepoint
ran to the end.
-/
theorem onFinalizeLost_ok
    {α : Type}
    {unit_ : Body α}
    {lost result : α}
    {db db' : Db}
    (returned :
      exec (tryCatch (savepoint unit_) (onFinalizeLost lost)) db =
        (.ok result, db')) :
    (result = lost ∧ db' = db) ∨ exec unit_ db = (.ok result, db') := by
  rcases tryCatch_savepoint_ok returned with
    finished | ⟨exception, _, _, handled⟩
  · exact .inr finished
  · left
    cases exception <;> cases handled
    exact ⟨rfl, rfl⟩

/-- A finalizer that raises has changed nothing. -/
theorem onFinalizeLost_error
    {α : Type}
    {unit_ : Body α}
    {lost : α}
    {exception : Raised}
    {db db' : Db}
    (raised :
      exec (tryCatch (savepoint unit_) (onFinalizeLost lost)) db =
        (.error exception, db')) :
    db' = db := by
  obtain ⟨thrown, _, _, handled⟩ := tryCatch_savepoint_error raised
  cases thrown <;> cases handled <;> rfl

/-- A held reservation and its attempt that have been released together. -/
structure Released
    (db : Db)
    (reservation : Reservation)
    (invocation : Invocation)
    (claims : Table IdempotencyRecord) :
    Prop where
  reservationFound : db.reservations.find reservation.id = some reservation
  held : reservation.status = .held
  invocationFound : db.invocations.find invocation.id = some invocation
  cleared :
    ClaimsChange invocation.operation (fun _ _ => none)
      db.idempotencyRecords claims

/-- The database after a refund. -/
abbrev releasedDb
    (db : Db)
    (reservation : Reservation)
    (invocation : Invocation)
    (toStatus : InvocationStatus)
    (remaining : Option Cents)
    (taskId : Option Id)
    (claims : Table IdempotencyRecord)
    (evidence : List ReconciliationEvent) :
    Db :=
  { db with
    mandates := refundedMandates db.mandates reservation
    reservations :=
      db.reservations.put { reservation with status := .released }
    invocations := db.invocations.put { invocation with status := toStatus }
    ledgerEvents := db.ledgerEvents ++
      [reservationEvent reservation .release remaining taskId]
    idempotencyRecords := claims
    reconciliationEvents := db.reconciliationEvents ++ evidence }

/-- The savepoint of `finalize_release` releases the attempt. -/
theorem releaseUnit_ok
    {reservation : Option Reservation}
    {invocation : Invocation}
    {allowedStatuses : List InvocationStatus}
    {won : Bool}
    {db db' : Db}
    (returned :
      exec (releaseUnit reservation invocation allowedStatuses) db =
        (.ok won, db')) :
    ∃ (given row : Reservation) (attempt : Invocation)
        (claims : Table IdempotencyRecord),
      reservation = some given ∧
        Released db row attempt claims ∧
        row.id = given.id ∧
        attempt.id = invocation.id ∧
        attempt.status ∈ allowedStatuses ∧
        db' =
          releasedDb db row attempt .released
            (refundedRemaining db.mandates row) invocation.taskId claims
            [] := by
  obtain ⟨given, _, present, rest⟩ := bind_ok returned
  obtain ⟨rfl, rfl⟩ := orRaise_ok present
  obtain ⟨row, rowFound, held, afterRow⟩ := updateRow_orRaise_ok rest
  obtain ⟨remaining, _, refundRun, afterRefund⟩ := bind_ok afterRow
  have isRemaining := refundMandate_remaining refundRun
  cases refundMandate_ok refundRun
  cases isRemaining
  obtain ⟨_, _, eventRun, afterEvent⟩ := bind_ok afterRefund
  cases eventRun
  obtain ⟨attempt, attemptFound, allowed, afterAttempt⟩ :=
    updateRow_orRaise_ok afterEvent
  obtain ⟨_, _, clearRun, afterClear⟩ := bind_ok afterAttempt
  obtain ⟨claims, cleared, rfl⟩ := clearLogicalOperation_ok clearRun
  cases afterClear
  have rowId : row.id = given.id := Table.key_of_find rowFound
  have attemptId : attempt.id = invocation.id :=
    Table.key_of_find attemptFound
  refine
    ⟨given, row, attempt, claims, rfl, ?_, rowId, attemptId,
      by simpa using allowed, by simp [releasedDb]; rfl⟩
  exact
    { reservationFound := rowId ▸ rowFound
      held := by simpa using held
      invocationFound := attemptId ▸ attemptFound
      cleared := cleared }

/-! ## The dispatch barrier and recovery -/

/-- The database after a transition of one attempt. -/
abbrev movedDb
    (db : Db)
    (invocation : Invocation)
    (toStatus : InvocationStatus) :
    Db :=
  { db with
    invocations :=
      db.invocations.put { invocation with status := toStatus } }

/-- A compare-and-set on an attempt moves it from an allowed status or fails. -/
theorem casInvocation_ok
    {invocation : Invocation}
    {allowed : List InvocationStatus}
    {newStatus : InvocationStatus}
    {row : Option Invocation}
    {db db' : Db}
    (returned :
      exec (casInvocation invocation allowed newStatus) db =
        (.ok row, db')) :
    (row = none ∧ db' = db) ∨
      ∃ attempt : Invocation,
        db.invocations.find attempt.id = some attempt ∧
          attempt.id = invocation.id ∧
          attempt.status ∈ allowed ∧
          row.isSome = true ∧
          db' = movedDb db attempt newStatus := by
  rcases updateRow_ok returned with
    missed | ⟨attempt, found, passes, rfl, rfl⟩
  · exact .inl missed
  · have sameId : attempt.id = invocation.id := Table.key_of_find found
    exact .inr
      ⟨attempt, sameId ▸ found, sameId, by simpa using passes, rfl, rfl⟩

/-- `mark_executing` moves a reserved attempt or changes nothing. -/
theorem markExecuting_ok
    {invocation : Invocation}
    {result : MarkExecutingResult}
    {db db' : Db}
    (returned :
      exec (markExecuting invocation) db = (.ok result, db')) :
    (result.won = false ∧ db' = db) ∨
      ∃ attempt : Invocation,
        db.invocations.find attempt.id = some attempt ∧
          attempt.id = invocation.id ∧
          attempt.status = .reserved ∧
          result.won = true ∧
          db' = movedDb db attempt .executing := by
  obtain ⟨row, _, casRun, afterCas⟩ := bind_ok returned
  rcases casInvocation_ok casRun with
    ⟨rfl, rfl⟩ | ⟨attempt, found, sameId, allowed, isSome, rfl⟩
  · left
    obtain ⟨_, _, readRun, afterRead⟩ := bind_ok afterCas
    cases readRun
    obtain ⟨_, _, present, answer⟩ := bind_ok afterRead
    obtain ⟨_, rfl⟩ := orRaise_ok present
    cases answer
    exact ⟨rfl, rfl⟩
  · right
    cases row with
    | none => cases isSome
    | some row =>
        cases afterCas
        exact ⟨attempt, found, sameId, by simpa using allowed, rfl, rfl⟩

/-- `mark_executed_fail` moves an executing attempt or changes nothing. -/
theorem markExecutedFail_ok
    {invocation : Invocation}
    {won : Bool}
    {db db' : Db}
    (returned : exec (markExecutedFail invocation) db = (.ok won, db')) :
    db' = db ∨
      ∃ attempt : Invocation,
        db.invocations.find attempt.id = some attempt ∧
          attempt.id = invocation.id ∧
          attempt.status = .executing ∧
          db' = movedDb db attempt .executedFail := by
  obtain ⟨row, _, casRun, afterCas⟩ := bind_ok returned
  cases afterCas
  rcases casInvocation_ok casRun with
    ⟨_, same⟩ | ⟨attempt, found, sameId, allowed, _, rfl⟩
  · exact .inl same
  · exact .inr ⟨attempt, found, sameId, by simpa using allowed, rfl⟩

/--
`recover_reserved` changes nothing, moves an open attempt to `ambiguous`, or
releases a reserved one.
-/
theorem recoverReserved_ok
    {views : Views}
    {invocation : Invocation}
    {mode : String}
    {moved : Bool}
    {db db' : Db}
    (returned :
      exec (recoverReserved views invocation mode) db = (.ok moved, db')) :
    db' = db ∨
      (∃ attempt : Invocation,
        db.invocations.find attempt.id = some attempt ∧
          attempt.status ∈
            [InvocationStatus.reserved, .executing] ∧
          db' = movedDb db attempt .ambiguous) ∨
      ∃ (refreshed : Invocation) (given row : Reservation)
          (attempt : Invocation) (claims : Table IdempotencyRecord),
        (views 0).invocations.find refreshed.id = some refreshed ∧
          refreshed.reservationId = some given.id ∧
          Released db row attempt claims ∧
          row.id = given.id ∧
          attempt.id = refreshed.id ∧
          attempt.status = .reserved ∧
          db' =
            releasedDb db row attempt .released
              (refundedRemaining db.mandates row) refreshed.taskId claims
              [] := by
  obtain ⟨refreshed, _, present, decided⟩ := bind_ok returned
  obtain ⟨found, rfl⟩ := orRaise_ok present
  have refreshedId : refreshed.id = invocation.id := Table.key_of_find found
  by_cases terminal : refreshed.status ∈ terminalInvocation
  · rw [if_pos terminal] at decided
    cases decided
    exact .inl rfl
  by_cases releases : mode = "release"
  · by_cases executing : refreshed.status = .executing
    · rw [if_neg terminal, if_pos releases, if_pos executing] at decided
      cases decided
      exact .inl rfl
    · rw [if_neg terminal, if_pos releases, if_neg executing] at decided
      rcases onFinalizeLost_ok decided with ⟨_, same⟩ | finished
      · exact .inl same
      · right; right
        obtain
          ⟨given, row, attempt, claims, isGiven, released, rowId, attemptId,
            allowed, rfl⟩ :=
          releaseUnit_ok finished
        have ofAttempt : refreshed.reservationId = some given.id := by
          cases linked : refreshed.reservationId with
          | none => simp [linked] at isGiven
          | some reservationId =>
              rw [linked, Option.bind_some] at isGiven
              cases first : (views 1).reservations.find reservationId with
              | some stored =>
                  simp only [first, Option.some.injEq] at isGiven
                  subst isGiven
                  have storedId : stored.id = reservationId :=
                    Table.key_of_find first
                  rw [storedId]
              | none =>
                  simp only [first] at isGiven
                  have storedId : given.id = reservationId :=
                    Table.key_of_find isGiven
                  rw [storedId]
        exact
          ⟨refreshed, given, row, attempt, claims, refreshedId ▸ found,
            ofAttempt, released, rowId, attemptId, by simpa using allowed,
            rfl⟩
  · by_cases reserved : refreshed.status = .reserved
    · rw [if_neg terminal, if_neg releases, if_pos reserved] at decided
      obtain ⟨_, _, casRun, afterCas⟩ := bind_ok decided
      cases afterCas
      rcases casInvocation_ok casRun with
        ⟨_, same⟩ | ⟨attempt, attemptFound, _, allowed, _, rfl⟩
      · exact .inl same
      · right; left
        exact ⟨attempt, attemptFound, by simp_all, rfl⟩
    · by_cases executing : refreshed.status = .executing
      · rw [if_neg terminal, if_neg releases, if_neg reserved,
          if_pos executing] at decided
        obtain ⟨_, _, casRun, afterCas⟩ := bind_ok decided
        cases afterCas
        rcases casInvocation_ok casRun with
          ⟨_, same⟩ | ⟨attempt, attemptFound, _, allowed, _, rfl⟩
        · exact .inl same
        · right; left
          exact ⟨attempt, attemptFound, by simp_all, rfl⟩
      · rw [if_neg terminal, if_neg releases, if_neg reserved,
          if_neg executing] at decided
        cases decided
        exact .inl rfl

/-! ## Low-level transitions -/

/-- The database after a low-level `commit`. -/
abbrev committedDb
    (db : Db)
    (reservation : Reservation)
    (remaining : Option Cents)
    (taskId : Option Id) :
    Db :=
  { db with
    reservations :=
      db.reservations.put { reservation with status := .committed }
    ledgerEvents := db.ledgerEvents ++
      [reservationEvent reservation .commit remaining taskId] }

/-- `commit` commits a held reservation or changes nothing. -/
theorem commit_ok
    {sessionMandate : Id → Option Mandate}
    {reservation : Reservation}
    {taskId : Option Id}
    {done : Unit}
    {db db' : Db}
    (returned :
      exec (commit sessionMandate reservation taskId) db =
        (.ok done, db')) :
    db' = db ∨
      ∃ row,
        row.id = reservation.id ∧
          db.reservations.find row.id = some row ∧
          row.status = .held ∧
          db' =
            committedDb db row (sessionRemaining sessionMandate row)
              taskId := by
  obtain ⟨answer, _, casRun, afterCas⟩ := bind_ok returned
  rcases updateRow_ok casRun with
    ⟨rfl, rfl⟩ | ⟨row, found, held, rfl, rfl⟩
  · cases afterCas
    exact .inl rfl
  · cases afterCas
    have rowId : row.id = reservation.id := Table.key_of_find found
    exact .inr ⟨row, rowId, rowId ▸ found, by simpa using held, rfl⟩

/-- The database after a low-level `release`. -/
abbrev refundedDb
    (db : Db)
    (reservation : Reservation)
    (remaining : Option Cents)
    (taskId : Option Id) :
    Db :=
  { db with
    mandates := refundedMandates db.mandates reservation
    reservations :=
      db.reservations.put { reservation with status := .released }
    ledgerEvents := db.ledgerEvents ++
      [reservationEvent reservation .release remaining taskId] }

/-- `release` releases a held reservation or changes nothing. -/
theorem release_ok
    {reservation : Reservation}
    {taskId : Option Id}
    {done : Unit}
    {db db' : Db}
    (returned :
      exec (release reservation taskId) db = (.ok done, db')) :
    db' = db ∨
      ∃ row,
        db.reservations.find row.id = some row ∧
          row.status = .held ∧
          db' =
            refundedDb db row (refundedRemaining db.mandates row)
              taskId := by
  obtain ⟨answer, _, casRun, afterCas⟩ := bind_ok returned
  rcases updateRow_ok casRun with
    ⟨rfl, rfl⟩ | ⟨row, found, held, rfl, rfl⟩
  · cases afterCas
    exact .inl rfl
  · obtain ⟨remaining, _, refundRun, afterRefund⟩ := bind_ok afterCas
    have isRemaining := refundMandate_remaining refundRun
    cases refundMandate_ok refundRun
    cases isRemaining
    cases afterRefund
    have rowId : row.id = reservation.id := Table.key_of_find found
    exact .inr ⟨row, rowId ▸ found, by simpa using held, rfl⟩

/-! ## Reconciliation -/

/-- The reservation that is looked up for an attempt is its own. -/
theorem reservation_of_bind
    {reservations : Table Reservation}
    {seen : Invocation}
    {given row : Reservation}
    (isGiven : seen.reservationId.bind reservations.find = some given)
    (rowId : row.id = given.id) :
    seen.reservationId = some row.id := by
  obtain ⟨reservationId, linked, loaded⟩ :=
    Option.bind_eq_some_iff.mp isGiven
  have loadedId : given.id = reservationId := Table.key_of_find loaded
  rw [linked, rowId, loadedId]

/-- A receipt found for a reservation is stored and names it. -/
theorem receiptForReservation_some
    {db : Db}
    {reservationId : Id}
    {receipt : Receipt}
    (found : receiptForReservation db reservationId = some receipt) :
    receipt ∈ db.receipts.rows ∧
      receipt.reservationId = some reservationId :=
  ⟨List.mem_of_find?_eq_some found, by simpa using List.find?_some found⟩

/-- An attempt that was reconciled over an already committed reservation. -/
structure Resettled
    (env : Env)
    (callbacks : FinalizeCallbacks)
    (db : Db)
    (reservation : Reservation)
    (invocation : Invocation)
    (accounts : Table Account)
    (claims : Table IdempotencyRecord) :
    Prop where
  reservationFound : db.reservations.find reservation.id = some reservation
  committed : reservation.status = .committed
  invocationFound : db.invocations.find invocation.id = some invocation
  charged : Charged env db.accounts accounts
  completed :
    ClaimsChange invocation.operation
      (completion invocation callbacks.resultJson) db.idempotencyRecords
      claims

/-- The database after a reconciliation over a committed reservation. -/
abbrev resettledDb
    (db : Db)
    (invocation : Invocation)
    (receipts : Table Receipt)
    (outbox : Table Outbox)
    (accounts : Table Account)
    (claims : Table IdempotencyRecord)
    (event : ReconciliationEvent) :
    Db :=
  { db with
    invocations :=
      db.invocations.put { invocation with status := .reconciledCommitted }
    receipts := receipts
    billingOutbox := outbox
    accounts := accounts
    idempotencyRecords := claims
    reconciliationEvents := db.reconciliationEvents ++ [event] }

/-- `issueMissing` touches receipts, outbox and accounts only. -/
theorem issueMissing_ok
    {env : Env}
    {callbacks : FinalizeCallbacks}
    {found : Option Receipt}
    {done : Unit}
    {db db' : Db}
    (returned :
      exec (issueMissing env callbacks found) db = (.ok done, db')) :
    ∃ receipts outbox accounts,
      Charged env db.accounts accounts ∧
        db' =
          { db with
            receipts := receipts
            billingOutbox := outbox
            accounts := accounts } := by
  cases found with
  | some receipt =>
      cases returned
      exact ⟨_, _, _, .inl rfl, rfl⟩
  | none =>
      obtain ⟨receipt, _, receiptRun, afterReceipt⟩ := bind_ok returned
      obtain ⟨receipts, _, _, rfl⟩ :=
        runReceiptFn_ok 0 receiptRun
      obtain ⟨_, _, billingRun, afterBilling⟩ := bind_ok afterReceipt
      obtain ⟨outbox, accounts, billing, rfl⟩ := runBillingFn_ok billingRun
      cases afterBilling
      exact ⟨receipts, outbox, accounts, billing.charged, rfl⟩

/--
The held branch of `_apply_success_economics` settles the reservation and
completes the claim of the attempt.
-/
theorem applyHeld_ok
    {env : Env}
    {sessionMandate : Id → Option Mandate}
    {reservation : Reservation}
    {invocation : Invocation}
    {callbacks : FinalizeCallbacks}
    {done : Unit}
    {db db' : Db}
    (returned :
      exec (applyHeld env sessionMandate reservation invocation callbacks)
          db =
        (.ok done, db')) :
    ∃ (row : Reservation) (receipt : Option Receipt)
        (receipts : Table Receipt) (outbox : Table Outbox)
        (accounts : Table Account) (claims : Table IdempotencyRecord),
      db.reservations.find reservation.id = some row ∧
        row.status = .held ∧
        ReceiptStep env callbacks db.receipts row.id receipts receipt ∧
        BillingStep env callbacks db.principals db.billingOutbox db.accounts
          receipt outbox accounts ∧
        ClaimsChange invocation.operation
          (completion invocation callbacks.resultJson)
          db.idempotencyRecords claims ∧
        db' =
          { db with
            reservations :=
              db.reservations.put { row with status := .committed }
            ledgerEvents := db.ledgerEvents ++
              [reservationEvent row .commit
                (sessionRemaining sessionMandate row) invocation.taskId]
            receipts := receipts
            billingOutbox := outbox
            accounts := accounts
            idempotencyRecords := claims } := by
  obtain ⟨_, _, readRun, afterRead⟩ := bind_ok returned
  cases readRun
  obtain ⟨row, found, held, afterRow⟩ := updateRow_orRaise_ok afterRead
  have rowId : row.id = reservation.id := Table.key_of_find found
  obtain ⟨_, _, eventRun, afterEvent⟩ := bind_ok afterRow
  cases eventRun
  obtain ⟨receipt, receiptDb, receiptRun, afterReceipt⟩ :=
    bind_ok afterEvent
  have receiptStep :
      ∃ receipts,
        ReceiptStep env callbacks db.receipts row.id receipts receipt ∧
          receiptDb =
            { db with
              reservations :=
                db.reservations.put { row with status := .committed }
              ledgerEvents := db.ledgerEvents ++
                [reservationEvent row .commit
                  ((sessionMandate row.mandateId).map
                    Mandate.remainingCents)
                  invocation.taskId]
              receipts := receipts } := by
    unfold foundOrIssued at receiptRun
    cases known : receiptForReservation db reservation.id with
    | some stored =>
        rw [known] at receiptRun
        cases receiptRun
        obtain ⟨member, ofReservation⟩ := receiptForReservation_some known
        exact
          ⟨_, .known member (rowId ▸ ofReservation), rfl⟩
    | none =>
        rw [known] at receiptRun
        obtain ⟨receipts, step, _, shape⟩ :=
          runReceiptFn_ok row.id receiptRun
        exact ⟨receipts, step, shape⟩
  obtain ⟨receipts, receiptStep, rfl⟩ := receiptStep
  obtain ⟨_, _, billingRun, afterBilling⟩ := bind_ok afterReceipt
  obtain ⟨outbox, accounts, billingStep, rfl⟩ := runBillingFn_ok billingRun
  obtain ⟨claims, completed, rfl⟩ := completeLogicalOperation_ok afterBilling
  exact
    ⟨row, receipt, receipts, outbox, accounts, claims, found,
      by simpa using held, receiptStep, billingStep, completed, rfl⟩

/-- The committed branch of `_apply_success_economics`. -/
theorem applyAlreadyCommitted_ok
    {env : Env}
    {reservation : Reservation}
    {invocation : Invocation}
    {callbacks : FinalizeCallbacks}
    {done : Unit}
    {db db' : Db}
    (returned :
      exec (applyAlreadyCommitted env reservation invocation callbacks) db =
        (.ok done, db')) :
    ∃ (receipts : Table Receipt) (outbox : Table Outbox)
        (accounts : Table Account) (claims : Table IdempotencyRecord),
      Charged env db.accounts accounts ∧
        ClaimsChange invocation.operation
          (completion invocation callbacks.resultJson)
          db.idempotencyRecords claims ∧
        db' =
          { db with
            receipts := receipts
            billingOutbox := outbox
            accounts := accounts
            idempotencyRecords := claims } := by
  obtain ⟨_, _, readRun, afterRead⟩ := bind_ok returned
  cases readRun
  obtain ⟨_, _, issueRun, completeRun⟩ := bind_ok afterRead
  obtain ⟨receipts, outbox, accounts, charged, rfl⟩ :=
    issueMissing_ok issueRun
  obtain ⟨claims, completed, rfl⟩ := completeLogicalOperation_ok completeRun
  exact ⟨receipts, outbox, accounts, claims, charged, completed, rfl⟩

/-- The two ways `reconcile_commit` can win. -/
theorem reconcileCommitUnit_ok
    {env : Env}
    {sessionMandate : Id → Option Mandate}
    {seenReservation : Option Reservation}
    {seen : Invocation}
    {evidence : Evidence}
    {kind : EvidenceKind}
    {callbacks : FinalizeCallbacks}
    {result : Option ReconciliationEvent}
    {db db' : Db}
    (returned :
      exec
          (reconcileCommitUnit env sessionMandate seenReservation seen
            evidence kind callbacks)
          db =
        (.ok result, db')) :
    ∃ (given row : Reservation) (attempt : Invocation),
      seenReservation = some given ∧
        row.id = given.id ∧
        attempt.id = seen.id ∧
        attempt.status ∈ reconcileFrom ∧
        result =
          some
            (reconciliationEvent seen .reconciledCommitted evidence kind) ∧
        ((∃ receipt receipts outbox accounts claims,
          Settled env callbacks (fun _ => callbacks.resultJson) db row
              attempt receipt receipts outbox accounts claims ∧
            db' =
              settledDb db row attempt .reconciledCommitted
                (sessionRemaining sessionMandate row) receipts outbox
                accounts claims
                [reconciliationEvent seen .reconciledCommitted evidence
                  kind]) ∨
        (∃ receipts outbox accounts claims,
          Resettled env callbacks db row attempt accounts claims ∧
            db' =
              resettledDb db attempt receipts outbox accounts claims
                (reconciliationEvent seen .reconciledCommitted evidence
                  kind))) := by
  obtain ⟨_, _, seenCheck, afterSeen⟩ := bind_ok returned
  obtain ⟨_, rfl⟩ := raiseWhen_ok seenCheck
  obtain ⟨attempt, attemptFound, allowed, afterCas⟩ :=
    updateRow_orRaise_ok afterSeen
  have attemptId : attempt.id = seen.id := Table.key_of_find attemptFound
  obtain ⟨given, _, givenPresent, afterGiven⟩ := bind_ok afterCas
  obtain ⟨isGiven, rfl⟩ := orRaise_ok givenPresent
  obtain ⟨_, _, readRun, afterRead⟩ := bind_ok afterGiven
  cases readRun
  obtain ⟨row, _, rowPresent, afterRow⟩ := bind_ok afterRead
  obtain ⟨rowFound, rfl⟩ := orRaise_ok rowPresent
  have rowId : row.id = given.id := Table.key_of_find rowFound
  obtain ⟨_, _, releasedCheck, afterCheck⟩ := bind_ok afterRow
  obtain ⟨_, rfl⟩ := raiseWhen_ok releasedCheck
  obtain ⟨_, _, applyRun, afterApply⟩ := bind_ok afterCheck
  unfold applySuccessEconomics at applyRun
  cases status : row.status with
  | released =>
      rw [status] at applyRun
      cases applyRun
  | committed =>
      rw [status] at applyRun
      obtain
        ⟨receipts, outbox, accounts, claims, charged, completed, rfl⟩ :=
        applyAlreadyCommitted_ok applyRun
      cases afterApply
      refine
        ⟨given, row, attempt, isGiven, rowId, attemptId,
          by simpa using allowed, rfl, .inr ?_⟩
      refine ⟨receipts, outbox, accounts, claims, ?_, rfl⟩
      exact
        { reservationFound := rowId ▸ rowFound
          committed := status
          invocationFound := attemptId ▸ attemptFound
          charged := charged
          completed := completed }
  | held =>
      rw [status] at applyRun
      obtain
        ⟨row', receipt, receipts, outbox, accounts, claims, found', held,
          receiptStep, billingStep, completed, rfl⟩ :=
        applyHeld_ok applyRun
      cases afterApply
      have sameRow : row' = row := by
        rw [rowId] at found'
        exact Option.some.inj (found'.symm.trans rowFound)
      subst sameRow
      refine
        ⟨given, row', attempt, isGiven, rowId, attemptId,
          by simpa using allowed, rfl, .inl ?_⟩
      refine
        ⟨receipt, receipts, outbox, accounts, claims, ?_, rfl⟩
      exact
        { reservationFound := rowId ▸ rowFound
          held := held
          invocationFound := attemptId ▸ attemptFound
          receiptStep := receiptStep
          billingStep := billingStep
          completed := completed }

/-- `reconcile_commit` loses, or its savepoint ran on `did_execute` evidence. -/
theorem reconcileCommit_ok
    {env : Env}
    {views : Views}
    {sessionMandate : Id → Option Mandate}
    {seen : Invocation}
    {evidence : Evidence}
    {callbacks : FinalizeCallbacks}
    {result : Option ReconciliationEvent}
    {db db' : Db}
    (returned :
      exec
          (reconcileCommit env views sessionMandate seen evidence callbacks)
          db =
        (.ok result, db')) :
    (result = none ∧ db' = db) ∨
      exec
          (reconcileCommitUnit env sessionMandate
            (seen.reservationId.bind (views 0).reservations.find) seen
            evidence .didExecute callbacks)
          db =
        (.ok result, db') := by
  obtain ⟨kind, _, required, afterEvidence⟩ := bind_ok returned
  obtain ⟨_, rfl⟩ := ofExcept_ok required
  obtain ⟨_, _, kindCheck, afterKind⟩ := bind_ok afterEvidence
  obtain ⟨isExecute, rfl⟩ := raiseWhen_ok kindCheck
  rw [not_ne_iff] at isExecute
  subst isExecute
  exact onFinalizeLost_ok afterKind

/-- The savepoint of `reconcile_release` releases the attempt. -/
theorem reconcileReleaseUnit_ok
    {seenReservation : Option Reservation}
    {seen : Invocation}
    {evidence : Evidence}
    {result : Option ReconciliationEvent}
    {db db' : Db}
    (returned :
      exec
          (reconcileReleaseUnit seenReservation seen evidence
            .didNotExecute)
          db =
        (.ok result, db')) :
    ∃ (given row : Reservation) (attempt : Invocation)
        (claims : Table IdempotencyRecord),
      seenReservation = some given ∧
        Released db row attempt claims ∧
        row.id = given.id ∧
        attempt.id = seen.id ∧
        attempt.status ∈ reconcileFrom ∧
        result =
          some
            (reconciliationEvent seen .reconciledReleased evidence
              .didNotExecute) ∧
        db' =
          releasedDb db row attempt .reconciledReleased
            (refundedRemaining db.mandates row) attempt.taskId claims
            [reconciliationEvent seen .reconciledReleased evidence
              .didNotExecute] := by
  obtain ⟨_, _, seenCheck, afterSeen⟩ := bind_ok returned
  obtain ⟨_, rfl⟩ := raiseWhen_ok seenCheck
  obtain ⟨attempt, attemptFound, allowed, afterCas⟩ :=
    updateRow_orRaise_ok afterSeen
  have attemptId : attempt.id = seen.id := Table.key_of_find attemptFound
  obtain ⟨given, _, givenPresent, afterGiven⟩ := bind_ok afterCas
  obtain ⟨isGiven, rfl⟩ := orRaise_ok givenPresent
  obtain ⟨_, _, readRun, afterRead⟩ := bind_ok afterGiven
  cases readRun
  obtain ⟨row, _, rowPresent, afterRow⟩ := bind_ok afterRead
  obtain ⟨rowFound, rfl⟩ := orRaise_ok rowPresent
  have rowId : row.id = given.id := Table.key_of_find rowFound
  obtain ⟨_, _, committedCheck, afterCheck⟩ := bind_ok afterRow
  obtain ⟨_, rfl⟩ := raiseWhen_ok committedCheck
  obtain ⟨row', rowFound', held, afterRelease⟩ :=
    updateRow_orRaise_ok afterCheck
  have sameRow : row' = row := by
    rw [rowId] at rowFound'
    exact Option.some.inj (rowFound'.symm.trans rowFound)
  subst sameRow
  obtain ⟨remaining, _, refundRun, afterRefund⟩ := bind_ok afterRelease
  have isRemaining := refundMandate_remaining refundRun
  cases refundMandate_ok refundRun
  cases isRemaining
  obtain ⟨_, _, eventRun, afterEvent⟩ := bind_ok afterRefund
  cases eventRun
  obtain ⟨_, _, clearRun, afterClear⟩ := bind_ok afterEvent
  obtain ⟨claims, cleared, rfl⟩ := clearLogicalOperation_ok clearRun
  cases afterClear
  refine
    ⟨given, row', attempt, claims, isGiven, ?_, rowId, attemptId,
      by simpa using allowed, rfl, rfl⟩
  exact
    { reservationFound := rowId ▸ rowFound
      held := by simpa using held
      invocationFound := attemptId ▸ attemptFound
      cleared := cleared }

/-- `reconcile_release` loses, or its savepoint ran on `did_not_execute`. -/
theorem reconcileRelease_ok
    {views : Views}
    {seen : Invocation}
    {evidence : Evidence}
    {result : Option ReconciliationEvent}
    {db db' : Db}
    (returned :
      exec (reconcileRelease views seen evidence) db =
        (.ok result, db')) :
    (result = none ∧ db' = db) ∨
      exec
          (reconcileReleaseUnit
            (seen.reservationId.bind (views 0).reservations.find) seen
            evidence .didNotExecute)
          db =
        (.ok result, db') := by
  obtain ⟨kind, _, required, afterEvidence⟩ := bind_ok returned
  obtain ⟨_, rfl⟩ := ofExcept_ok required
  obtain ⟨_, _, kindCheck, afterKind⟩ := bind_ok afterEvidence
  obtain ⟨notExecute, rfl⟩ := raiseWhen_ok kindCheck
  cases kind with
  | didExecute => exact (notExecute rfl).elim
  | didNotExecute => exact onFinalizeLost_ok afterKind

end Crossing

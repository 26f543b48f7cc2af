import Crossing.LedgerSpec

namespace Crossing

open Relational
open Relational.Transaction

/-!
# The outcomes of `reserve_and_commit`

Whether the key is claimed, the sign of the amount and the guard of the debit
decide what `reserve_and_commit` does, in this order.  There is one equation
for each outcome.  A denial is explained from the object the session holds,
which the guard has not looked at.
-/

/-! ## The debit -/

section Reserve

variable
  {now : Datetime}
  {mandate : Mandate}
  {amountCents : Cents}
  {idempotencyKey nonce : Option String}
  {taskId : Option Id}
  {recordDeny : Bool}
  {newId : Id}
  {db : Db}

/-- The conditional update of the debit matches a row. -/
def Debitable
    (db : Db)
    (now : Datetime)
    (mandateId : Id)
    (amountCents : Cents) :
    Prop :=
  ∃ row, db.mandates.find mandateId = some row ∧
    debitGuard now amountCents row = true

/-- The denial of a negative amount. -/
def negativeAmount : Denied :=
  ⟨.invalidAmount, "reserve amount must be >= 0"⟩

/-- The denial of a debit that matched no row. -/
def refusedDebit
    (now : Datetime)
    (mandate : Mandate)
    (amountCents : Cents) :
    Denied :=
  ⟨reserveDenyReason now (some mandate) amountCents,
    s!"need {amountCents} have {mandate.remainingCents}"⟩

/-- The reservation that `reserve` makes of a debited mandate. -/
def heldReservation
    (newId : Id)
    (row : Mandate)
    (amountCents : Cents)
    (idempotencyKey nonce : Option String) :
    Reservation where
  id := newId
  principalId := row.principalId
  mandateId := row.id
  amountCents := amountCents
  status := .held
  idempotencyKey := idempotencyKey
  nonce := nonce

/-- The deny event of a debit, with the row that it reports. -/
def debitDenial
    (row : Mandate)
    (amountCents : Cents)
    (idempotencyKey : Option String)
    (taskId : Option Id)
    (reason : Reason) :
    LedgerEvent where
  principalId := row.principalId
  mandateId := row.id
  reservationId := none
  taskId := taskId
  kind := .deny
  amountCents := amountCents
  remainingAfter := some row.remainingCents
  idempotencyKey := idempotencyKey
  note := some (.reason reason)

/-- A negative amount is refused before anything is read. -/
theorem reserve_negative (negative : amountCents < 0) :
    exec
        (reserve now mandate amountCents idempotencyKey nonce taskId
          recordDeny newId)
        db =
      (.error (denied negativeAmount), db) := by
  simp [reserve, negative, negativeAmount]

/-- A debit that matches no row is refused; its denial may be recorded. -/
theorem reserve_refused
    (nonnegative : 0 ≤ amountCents)
    (refused : ¬ Debitable db now mandate.id amountCents) :
    exec
        (reserve now mandate amountCents idempotencyKey nonce taskId
          recordDeny newId)
        db =
      (.error (denied (refusedDebit now mandate amountCents)),
        if recordDeny then
          { db with
            ledgerEvents := db.ledgerEvents ++
              [debitDenial mandate amountCents idempotencyKey taskId
                (refusedDebit now mandate amountCents).reason] }
        else
          db) := by
  have missed :
      db.mandates.update? mandate.id (debitGuard now amountCents)
          (debited amountCents) =
        none := by
    cases answered :
        db.mandates.update? mandate.id (debitGuard now amountCents)
          (debited amountCents) with
    | none => rfl
    | some result =>
        obtain ⟨old, found, passes, _⟩ := Table.update?_eq_some answered
        exact (refused ⟨old, found, passes⟩).elim
  cases recordDeny <;>
    simp [reserve, updateRow, not_lt.mpr nonnegative, missed, refusedDebit,
      appendEvent, debitDenial]

/-- A debit that matches its row needs a free id for its reservation. -/
theorem reserve_debitable
    {row : Mandate}
    (nonnegative : 0 ≤ amountCents)
    (found : db.mandates.find mandate.id = some row)
    (passes : debitGuard now amountCents row = true) :
    exec
        (reserve now mandate amountCents idempotencyKey nonce taskId
          recordDeny newId)
        db =
      match
        db.reservations.insert?
          (heldReservation newId row amountCents idempotencyKey nonce)
      with
      | none =>
          (.error .integrityError,
            { db with mandates := db.mandates.put (debited amountCents row) })
      | some reservations =>
          (.ok
              (heldReservation newId row amountCents idempotencyKey nonce,
                debited amountCents row),
            { db with
              mandates := db.mandates.put (debited amountCents row)
              reservations := reservations
              ledgerEvents := db.ledgerEvents ++
                [reservationEvent
                  (heldReservation newId row amountCents idempotencyKey nonce)
                  .reserve (some (debited amountCents row).remainingCents)
                  taskId] }) := by
  have answered :
      db.mandates.update? mandate.id (debitGuard now amountCents)
          (debited amountCents) =
        some (debited amountCents row,
          db.mandates.put (debited amountCents row)) := by
    simp [Table.update?, found, passes]
  simp only [reserve, updateRow, exec_bind, exec_raiseWhen,
    not_lt.mpr nonnegative, ↓reduceIte, exec_get, answered, exec_set,
    exec_pure, addRow]
  have isHeld :
      ({ id := newId
         principalId := (debited amountCents row).principalId
         mandateId := (debited amountCents row).id
         amountCents := amountCents
         status := .held
         idempotencyKey := idempotencyKey
         nonce := nonce } : Reservation) =
        heldReservation newId row amountCents idempotencyKey nonce :=
    rfl
  rw [isHeld]
  cases db.reservations.insert?
      (heldReservation newId row amountCents idempotencyKey nonce) <;>
    rfl

end Reserve

/-! ## The claim -/

/-- The claim that a non-empty key of a principal leads to. -/
def claimOf (db : Db) (principalId : Id) (key : Option String) :
    Option IdempotencyRecord :=
  (truthy key).bind fun key => db.idempotencyRecords.find (principalId, key)

/-- The claims with an open claim of the key, when a key is given. -/
structure ClaimAdded
    (db : Db)
    (principalId : Id)
    (key requestHash : Option String)
    (claims : Table IdempotencyRecord) :
    Prop where
  keyed :
    ∀ text, truthy key = some text →
      db.idempotencyRecords.insert?
          (openClaim requestHash (principalId, text)) =
        some claims
  keyless : truthy key = none → claims = db.idempotencyRecords

section Claim

variable
  {view db : Db}
  {principalId : Id}
  {key requestHash : Option String}

/-- A key that is free can be claimed. -/
theorem exists_claimAdded
    (requestHash : Option String)
    (free : claimOf db principalId key = none) :
    ∃ claims, ClaimAdded db principalId key requestHash claims := by
  cases given : truthy key with
  | none => exact ⟨db.idempotencyRecords, by simp [given], fun _ => rfl⟩
  | some text =>
      have fresh :
          db.idempotencyRecords.find
              (Keyed.key (openClaim requestHash (principalId, text))) =
            none := by
        simpa [claimOf, given, openClaim] using free
      obtain ⟨claims, inserted⟩ := Table.insert?_of_fresh fresh
      refine ⟨claims, ?_, by simp [given]⟩
      intro other same
      cases given.symm.trans same
      exact inserted

/-- A free key is claimed, if there is one. -/
theorem claimWhenKeyed_free
    {claims : Table IdempotencyRecord}
    (added : ClaimAdded db principalId key requestHash claims) :
    exec (claimWhenKeyed view principalId key requestHash) db =
      (.ok (), { db with idempotencyRecords := claims }) := by
  unfold claimWhenKeyed
  cases given : truthy key with
  | none =>
      rw [added.keyless given]
      rfl
  | some text =>
      have inserted := added.keyed text given
      unfold openClaim at inserted
      simp [claimIdempotency, addRow, inserted]

/-- A key that is taken raises what its claim calls for. -/
theorem claimWhenKeyed_taken
    {record : IdempotencyRecord}
    (taken : claimOf db principalId key = some record) :
    exec (claimWhenKeyed view principalId key requestHash) db =
      (.error (existingClaim (claimOf view principalId key) requestHash),
        db) := by
  obtain ⟨text, given, found⟩ := Option.bind_eq_some_iff.mp taken
  have refused :
      db.idempotencyRecords.insert?
          (openClaim requestHash (principalId, text)) =
        none :=
    Table.insert?_eq_none.mpr (Option.isSome_iff_exists.mpr ⟨record, found⟩)
  unfold openClaim at refused
  simp [claimWhenKeyed, claimOf, given, claimIdempotency, addRow, refused]

end Claim

/-- A taken key is denied without a record, or its claim is replayed. -/
theorem existingClaim_cases
    (existing : Option IdempotencyRecord)
    (requestHash : Option String) :
    (∃ outcome,
      existingClaim existing requestHash = denied outcome ∧
        outcome.reason ∉ recordedDenials) ∨
      ∃ record,
        existingClaim existing requestHash = .idempotencyReplay record := by
  unfold existingClaim
  cases existing with
  | none => exact .inl ⟨_, rfl, by decide⟩
  | some existing =>
      simp only
      split
      · exact .inl ⟨_, rfl, by decide⟩
      split
      · exact .inr ⟨_, rfl⟩
      · exact .inl ⟨_, rfl, by decide⟩

/-- The denial of a refused debit is one that is recorded. -/
theorem reserveDenyReason_recorded
    (now : Datetime)
    (locked : Option Mandate)
    (amountCents : Cents) :
    reserveDenyReason now locked amountCents ∈ recordedDenials := by
  unfold reserveDenyReason
  cases locked with
  | none => exact List.mem_cons_self
  | some locked =>
      simp only
      split
      · decide
      split
      · decide
      split
      · decide
      split <;> decide

/-! ## Both, and the attempt -/

section ReserveAndCommit

variable
  {view db : Db}
  {now : Datetime}
  {mandate row : Mandate}
  {amountCents : Cents}
  {idempotencyKey nonce : Option String}
  {tool server : String}
  {requestHash : Option String}
  {taskId : Option Id}
  {reservationNewId invocationNewId : Id}

/-- A taken key ends the call, and nothing is changed. -/
theorem reserveAndCommit_taken
    {record : IdempotencyRecord}
    (stored : db.mandates.find mandate.id = some row)
    (taken : claimOf db mandate.principalId idempotencyKey = some record) :
    exec
        (reserveAndCommit view now mandate amountCents idempotencyKey nonce
          tool server requestHash taskId reservationNewId invocationNewId)
        db =
      (.error
          (existingClaim (claimOf view mandate.principalId idempotencyKey)
            requestHash),
        db) := by
  simp only [reserveAndCommit, claimAndReserve, exec_tryCatch, exec_savepoint,
    exec_bind, claimWhenKeyed_taken taken]
  rcases existingClaim_cases
      (claimOf view mandate.principalId idempotencyKey) requestHash with
    ⟨outcome, isDenied, unrecorded⟩ | ⟨replayed, isReplay⟩
  · simp [isDenied, stored, unrecorded]
  · simp [isReplay]

/-- A negative amount ends the call, and nothing is changed. -/
theorem reserveAndCommit_negative
    (stored : db.mandates.find mandate.id = some row)
    (free : claimOf db mandate.principalId idempotencyKey = none)
    (negative : amountCents < 0) :
    exec
        (reserveAndCommit view now mandate amountCents idempotencyKey nonce
          tool server requestHash taskId reservationNewId invocationNewId)
        db =
      (.error (denied negativeAmount), db) := by
  obtain ⟨claims, added⟩ := exists_claimAdded requestHash free
  simp only [reserveAndCommit, claimAndReserve, exec_tryCatch, exec_savepoint,
    exec_bind, claimWhenKeyed_free added, reserve_negative negative]
  have unrecorded : negativeAmount.reason ∉ recordedDenials := by decide
  simp [stored, unrecorded]

/-- A refused debit ends the call, and its denial is recorded. -/
theorem reserveAndCommit_refused
    (stored : db.mandates.find mandate.id = some row)
    (free : claimOf db mandate.principalId idempotencyKey = none)
    (nonnegative : 0 ≤ amountCents)
    (refused : debitGuard now amountCents row = false) :
    exec
        (reserveAndCommit view now mandate amountCents idempotencyKey nonce
          tool server requestHash taskId reservationNewId invocationNewId)
        db =
      (.error (denied (refusedDebit now mandate amountCents)),
        { db with
          ledgerEvents := db.ledgerEvents ++
            [debitDenial row amountCents idempotencyKey taskId
              (refusedDebit now mandate amountCents).reason] }) := by
  obtain ⟨claims, added⟩ := exists_claimAdded requestHash free
  have notDebitable :
      ¬ Debitable { db with idempotencyRecords := claims } now mandate.id
          amountCents := by
    rintro ⟨other, found, passes⟩
    cases stored.symm.trans found
    rw [refused] at passes
    cases passes
  simp only [reserveAndCommit, claimAndReserve, exec_tryCatch, exec_savepoint,
    exec_bind, claimWhenKeyed_free added,
    reserve_refused nonnegative notDebitable]
  have recorded :
      (refusedDebit now mandate amountCents).reason ∈ recordedDenials :=
    reserveDenyReason_recorded now (some mandate) amountCents
  simp [stored, recorded, appendEvent, debitDenial]

/-- A debit that matches opens an attempt, unless an id is taken. -/
theorem reserveAndCommit_debitable
    {claims : Table IdempotencyRecord}
    (stored : db.mandates.find mandate.id = some row)
    (added :
      ClaimAdded db mandate.principalId idempotencyKey requestHash claims)
    (nonnegative : 0 ≤ amountCents)
    (passes : debitGuard now amountCents row = true) :
    let reservation :=
      heldReservation reservationNewId row amountCents idempotencyKey nonce
    let invocation :=
      reservedInvocation invocationNewId (debited amountCents row) reservation
        taskId tool server requestHash idempotencyKey amountCents
    exec
        (reserveAndCommit view now mandate amountCents idempotencyKey nonce
          tool server requestHash taskId reservationNewId invocationNewId)
        db =
      match
        db.reservations.insert? reservation,
        db.invocations.insert? invocation
      with
      | some reservations, some invocations =>
          (.ok (reservation, invocation, debited amountCents row),
            openedDb db row reservation taskId reservations invocations claims)
      | _, _ => (.error .integrityError, db) := by
  intro reservation invocation
  have found :
      ({ db with idempotencyRecords := claims } : Db).mandates.find
          mandate.id =
        some row :=
    stored
  simp only [reserveAndCommit, claimAndReserve, exec_tryCatch, exec_savepoint,
    exec_bind, claimWhenKeyed_free added,
    reserve_debitable nonnegative found passes]
  cases db.reservations.insert? reservation with
  | none => rfl
  | some reservations =>
      simp only [addRow, exec_bind, exec_get]
      cases db.invocations.insert? invocation <;> rfl

/-- What an exception leaves in the ledger: a recorded denial, or nothing. -/
inductive DenialLogged (mandateId : Id) (exception : Raised) :
    List LedgerEvent → Prop where
  | unrecorded
      (unrecorded :
        ∀ outcome, exception = .policyDenied outcome →
          outcome.reason ∉
            [Reason.budgetExceeded, .maxCallsExceeded, .mandateExpired]) :
      DenialLogged mandateId exception []
  | recorded
      {outcome : Denied}
      {event : LedgerEvent}
      (isDenied : exception = .policyDenied outcome)
      (recorded :
        outcome.reason ∈
          [Reason.budgetExceeded, .maxCallsExceeded, .mandateExpired])
      (isDeny : event.kind = .deny)
      (ofMandate : event.mandateId = mandateId)
      (note : event.note = some (.reason outcome.reason)) :
      DenialLogged mandateId exception [event]

/-- A `reserve_and_commit` that raises leaves its deny event at most. -/
theorem reserveAndCommit_raised
    {db' : Db}
    {exception : Raised}
    (raised :
      exec
          (reserveAndCommit view now mandate amountCents idempotencyKey nonce
            tool server requestHash taskId reservationNewId invocationNewId)
          db =
        (.error exception, db')) :
    ∃ denials,
      DenialLogged mandate.id exception denials ∧
        db' = { db with ledgerEvents := db.ledgerEvents ++ denials } := by
  have silent {other : Raised}
      (notRecorded :
        ∀ outcome, other = .policyDenied outcome →
          outcome.reason ∉ recordedDenials) :
      ∃ denials,
        DenialLogged mandate.id other denials ∧
          db = { db with ledgerEvents := db.ledgerEvents ++ denials } :=
    ⟨[], .unrecorded notRecorded, by simp⟩
  obtain ⟨thrown, _, _, handled⟩ := tryCatch_savepoint_error raised
  cases thrown with
  | policyDenied outcome =>
      rcases bind_error handled with readRaised | ⟨_, _, readRun, rest⟩
      · cases readRaised
      cases readRun
      rcases bind_error rest with missing | ⟨row, _, present, decided⟩
      · obtain ⟨_, rfl, rfl⟩ := orRaise_error missing
        exact silent (fun _ isDenied => nomatch isDenied)
      obtain ⟨found, rfl⟩ := orRaise_ok present
      by_cases recorded : outcome.reason ∈ recordedDenials
      · simp only [recorded, ↓reduceIte] at decided
        cases decided
        exact ⟨_, .recorded rfl recorded rfl (Table.key_of_find found) rfl,
          rfl⟩
      · simp only [recorded, ↓reduceIte] at decided
        cases decided
        exact silent (by
          intro other same
          cases same
          exact recorded)
  | _ =>
      cases handled
      exact silent (fun _ isDenied => nomatch isDenied)

/-- What a returning `reserve_and_commit` has added to the database. -/
structure AddedTogether
    (db : Db)
    (mandate : Mandate)
    (amountCents : Cents)
    (idempotencyKey nonce requestHash : Option String)
    (taskId : Option Id)
    (reservation : Reservation)
    (invocation : Invocation)
    (db' : Db) :
    Prop where
  nonnegative : 0 ≤ amountCents
  isReservation :
    reservation.mandateId = mandate.id ∧
      reservation.amountCents = amountCents ∧
      reservation.status = .held ∧
      reservation.idempotencyKey = idempotencyKey ∧
      reservation.nonce = nonce
  isInvocation :
    invocation.mandateId = mandate.id ∧
      invocation.reservationId = some reservation.id ∧
      invocation.amountCents = amountCents ∧
      invocation.status = .reserved ∧
      invocation.idempotencyKey = idempotencyKey ∧
      invocation.requestHash = requestHash
  added :
    ∃ row claims reservations invocations,
      db.mandates.find mandate.id = some row ∧
        reservation.principalId = row.principalId ∧
        amountCents ≤ row.remainingCents ∧
        ClaimAdded db mandate.principalId idempotencyKey requestHash claims ∧
        db.reservations.insert? reservation = some reservations ∧
        db.invocations.insert? invocation = some invocations ∧
        db' =
          { db with
            mandates := db.mandates.put
              { row with
                remainingCents := row.remainingCents - amountCents
                callsUsed := row.callsUsed + 1 }
            idempotencyRecords := claims
            reservations := reservations
            invocations := invocations
            ledgerEvents := db.ledgerEvents ++
              [reservationEvent reservation .reserve
                (some (row.remainingCents - amountCents)) taskId] }

/-- A `reserve_and_commit` that returns has found the row of its mandate. -/
theorem reserveAndCommit_stored
    {db' : Db}
    {opened : Reservation × Invocation × Mandate}
    (returned :
      exec
          (reserveAndCommit view now mandate amountCents idempotencyKey nonce
            tool server requestHash taskId reservationNewId invocationNewId)
          db =
        (.ok opened, db')) :
    ∃ row, db.mandates.find mandate.id = some row := by
  obtain ⟨_, claimedDb, claimRun, rest⟩ :=
    bind_ok (reserveAndCommit_ok returned)
  obtain ⟨⟨_, _⟩, _, reserveRun, _⟩ := bind_ok rest
  obtain ⟨old, _, debit, sameId, _⟩ := reserve_ok reserveRun
  refine ⟨old, ?_⟩
  have found : claimedDb.mandates.find mandate.id = some old :=
    sameId ▸ debit.found
  cases taken : claimOf db mandate.principalId idempotencyKey with
  | some record =>
      rw [claimWhenKeyed_taken taken] at claimRun
      cases claimRun
  | none =>
      obtain ⟨claims, added⟩ := exists_claimAdded requestHash taken
      rw [claimWhenKeyed_free added] at claimRun
      cases claimRun
      exact found

/-- A `reserve_and_commit` that returns has added everything together. -/
theorem reserveAndCommit_returned
    {db' : Db}
    {reservation : Reservation}
    {invocation : Invocation}
    {debitedMandate : Mandate}
    (returned :
      exec
          (reserveAndCommit view now mandate amountCents idempotencyKey nonce
            tool server requestHash taskId reservationNewId invocationNewId)
          db =
        (.ok (reservation, invocation, debitedMandate), db')) :
    AddedTogether db mandate amountCents idempotencyKey nonce requestHash
      taskId reservation invocation db' := by
  obtain ⟨row, stored⟩ := reserveAndCommit_stored returned
  have rowId : row.id = mandate.id := Table.key_of_find stored
  cases taken : claimOf db mandate.principalId idempotencyKey with
  | some record =>
      rw [reserveAndCommit_taken stored taken] at returned
      cases returned
  | none =>
      by_cases negative : amountCents < 0
      · rw [reserveAndCommit_negative stored taken negative] at returned
        cases returned
      have nonnegative : 0 ≤ amountCents := not_lt.mp negative
      cases passes : debitGuard now amountCents row with
      | false =>
          rw [reserveAndCommit_refused stored taken nonnegative passes]
            at returned
          cases returned
      | true =>
          obtain ⟨claims, added⟩ := exists_claimAdded requestHash taken
          rw [reserveAndCommit_debitable stored added nonnegative passes]
            at returned
          split at returned
          · next reservations invocations isReservations isInvocations =>
              cases returned
              have covered : amountCents ≤ row.remainingCents := by
                simp only [debitGuard, Bool.and_eq_true,
                  decide_eq_true_eq] at passes
                exact passes.1.1.1
              exact
                { nonnegative := nonnegative
                  isReservation := ⟨rowId, rfl, rfl, rfl, rfl⟩
                  isInvocation := ⟨rowId, rfl, rfl, rfl, rfl, rfl⟩
                  added :=
                    ⟨row, claims, reservations, invocations, stored, rfl,
                      covered, added, isReservations, isInvocations, rfl⟩ }
          · cases returned

end ReserveAndCommit

/--
`reserve_and_commit` is all or nothing.  When it returns, the claim of its key,
the debit, the held reservation with its event and the reserved attempt are the
changes; when it raises, the event of a recorded denial is the only one.
-/
theorem reserve_and_commit_all_or_nothing
    (view db : Db)
    (now : Datetime)
    (mandate : Mandate)
    (amountCents : Cents)
    (idempotencyKey nonce : Option String)
    (tool server : String)
    (requestHash : Option String)
    (taskId : Option Id)
    (reservationNewId invocationNewId : Id) :
    match
      exec
        (reserveAndCommit view now mandate amountCents idempotencyKey nonce
          tool server requestHash taskId reservationNewId invocationNewId)
        db
    with
    | (.ok (reservation, invocation, _), db') =>
        AddedTogether db mandate amountCents idempotencyKey nonce requestHash
          taskId reservation invocation db'
    | (.error exception, db') =>
        ∃ denials,
          DenialLogged mandate.id exception denials ∧
            db' = { db with ledgerEvents := db.ledgerEvents ++ denials } := by
  split
  · next returned => exact reserveAndCommit_returned returned
  · next raised => exact reserveAndCommit_raised raised

end Crossing

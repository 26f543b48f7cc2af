import Crossing.AuditLog

namespace Crossing

open Relational

/-!
# An attempt and its reservation

An attempt and its reservation are written by different functions, yet they end
together in every reachable state.  `Paired` is the law of the tables.  It needs
finalizers that are called with the reservation of the attempt.
-/

/-- The reservation status that goes with an attempt. -/
def InvocationStatus.hold : InvocationStatus → ReservationStatus
  | .committed | .reconciledCommitted => .committed
  | .released | .reconciledReleased => .released
  | _ => .held

/-- A move keeps the reservation of an attempt held. -/
theorem Move.staysHeld
    {status toStatus : InvocationStatus}
    (move : Move status toStatus) :
    status.hold = .held ∧
      toStatus.hold = .held ∧
      toStatus ≠ .executedOk := by
  cases move with
  | execute => decide
  | fail => decide
  | lose inFlight =>
      simp only [List.mem_cons, List.not_mem_nil, or_false] at inFlight
      rcases inFlight with rfl | rfl <;> decide

/-- The reservation of an attempt, in step with it. -/
structure HoldsFor
    (reservations : Table Reservation)
    (invocation : Invocation)
    (reservation : Reservation) :
    Prop where
  link : invocation.reservationId = some reservation.id
  found : reservations.find reservation.id = some reservation
  phase : reservation.status = invocation.status.hold
  sameAmount : reservation.amountCents = invocation.amountCents
  samePrincipal : reservation.principalId = invocation.principalId

/-- Attempts, their reservations and the receipts of these agree. -/
structure Db.Paired (db : Db) : Prop where
  noneOk : ∀ row ∈ db.invocations.rows, row.status ≠ .executedOk
  attempt :
    ∀ invocation ∈ db.invocations.rows,
      ∃ reservation, HoldsFor db.reservations invocation reservation
  apart :
    ∀ first ∈ db.invocations.rows, ∀ second ∈ db.invocations.rows,
      first.reservationId = second.reservationId → first = second
  earned :
    ∀ receipt ∈ db.receipts.rows, ∀ id, receipt.reservationId = some id →
      ∃ reservation,
        db.reservations.find id = some reservation ∧
          reservation.status = .committed

/-! ## Rows that stay in step -/

section Rows

variable {reservations reservations' : Table Reservation}

/-- The reservation of an attempt is the only one in step with it. -/
theorem HoldsFor.eq_of_link
    {invocation : Invocation}
    {reservation other : Reservation}
    (holds : HoldsFor reservations invocation reservation)
    (found : reservations.find other.id = some other)
    (link : invocation.reservationId = some other.id) :
    reservation = other := by
  have sameId : reservation.id = other.id :=
    Option.some.inj (holds.link.symm.trans link)
  have stored := holds.found
  rw [sameId, found] at stored
  exact (Option.some.inj stored).symm

/-- An attempt stays in step when its reservation is left alone. -/
theorem HoldsFor.untouched
    {invocation : Invocation}
    {reservation : Reservation}
    (holds : HoldsFor reservations invocation reservation)
    (same :
      reservations'.find reservation.id = reservations.find reservation.id) :
    HoldsFor reservations' invocation reservation :=
  { holds with found := same.trans holds.found }

end Rows

namespace Db.Paired

variable {db : Db}

/--
An attempt and its reservation move together, and the other pairs are left
alone.
-/
theorem pairs_put
    (law : db.Paired)
    {invocation : Invocation}
    {reservation : Reservation}
    {reservations : Table Reservation}
    (toStatus : InvocationStatus)
    (reservation' : Reservation)
    (found : db.invocations.find invocation.id = some invocation)
    (holds : HoldsFor db.reservations invocation reservation)
    (same : reservation.SameHold reservation')
    (phase : reservation'.status = toStatus.hold)
    (moved : reservations.find reservation.id = some reservation')
    (others :
      ∀ id, id ≠ reservation.id →
        reservations.find id = db.reservations.find id) :
    (∀ row ∈
        (db.invocations.put { invocation with status := toStatus }).rows,
      ∃ reservation, HoldsFor reservations row reservation) ∧
      ∀ first ∈
          (db.invocations.put { invocation with status := toStatus }).rows,
        ∀ second ∈
            (db.invocations.put { invocation with status := toStatus }).rows,
          first.reservationId = second.reservationId → first = second := by
  have member := Table.mem_of_find found
  constructor
  · intro row inNew
    rcases mem_moved inNew with rfl | ⟨inOld, different⟩
    · refine ⟨reservation', ?_⟩
      rw [same] at phase moved ⊢
      exact
        { link := holds.link
          found := moved
          phase := phase
          sameAmount := holds.sameAmount
          samePrincipal := holds.samePrincipal }
    · obtain ⟨own, ownHolds⟩ := law.attempt row inOld
      refine ⟨own, ownHolds.untouched (others own.id ?_)⟩
      intro sameReservation
      have sameAttempt : row = invocation := by
        apply law.apart row inOld invocation member
        rw [ownHolds.link, holds.link, sameReservation]
      exact different (congrArg Invocation.id sameAttempt)
  · intro first inNew second inNew' sameReservation
    rcases mem_moved inNew with rfl | ⟨inOld, different⟩
    · rcases mem_moved inNew' with rfl | ⟨inOld', different'⟩
      · rfl
      · have sameAttempt :=
          law.apart invocation member second inOld' sameReservation
        exact (different' (congrArg Invocation.id sameAttempt.symm)).elim
    · rcases mem_moved inNew' with rfl | ⟨inOld', _⟩
      · have sameAttempt :=
          law.apart first inOld invocation member sameReservation
        exact (different (congrArg Invocation.id sameAttempt)).elim
      · exact law.apart first inOld second inOld' sameReservation

/-- A status other than `executed_ok` keeps `executed_ok` away. -/
theorem noneOk_put
    (law : db.Paired)
    {invocation : Invocation}
    {toStatus : InvocationStatus}
    (notOk : toStatus ≠ .executedOk) :
    ∀ row ∈
        (db.invocations.put { invocation with status := toStatus }).rows,
      row.status ≠ .executedOk := by
  intro row inNew
  rcases mem_moved inNew with rfl | ⟨inOld, _⟩
  · exact notOk
  · exact law.noneOk row inOld

/-- A receipt is one of a committed reservation. -/
theorem earned_committed
    (law : db.Paired)
    {receipt : Receipt}
    {reservation : Reservation}
    (member : receipt ∈ db.receipts.rows)
    (found : db.reservations.find reservation.id = some reservation)
    (ofThis : receipt.reservationId = some reservation.id) :
    reservation.status = .committed := by
  obtain ⟨row, rowFound, committed⟩ := law.earned receipt member _ ofThis
  cases rowFound.symm.trans found
  exact committed

/-- Committed reservations keep their receipts when a held one moves. -/
theorem earned_put
    (law : db.Paired)
    {reservation : Reservation}
    (found : db.reservations.find reservation.id = some reservation)
    (held : reservation.status = .held)
    (toStatus : ReservationStatus) :
    ∀ receipt ∈ db.receipts.rows, ∀ id, receipt.reservationId = some id →
      ∃ row,
        (db.reservations.put { reservation with status := toStatus }).find
            id =
          some row ∧
          row.status = .committed := by
  intro receipt member id ofThis
  obtain ⟨row, rowFound, committed⟩ := law.earned receipt member id ofThis
  refine ⟨row, (Table.find_put_of_ne ?_).trans rowFound, committed⟩
  rintro rfl
  cases found.symm.trans rowFound
  rw [held] at committed
  cases committed

/-- The reservation that an attempt names is the one in step with it. -/
theorem holdsFor
    (law : db.Paired)
    {invocation : Invocation}
    {reservation : Reservation}
    (found : db.invocations.find invocation.id = some invocation)
    (stored : db.reservations.find reservation.id = some reservation)
    (link : invocation.reservationId = some reservation.id) :
    HoldsFor db.reservations invocation reservation := by
  obtain ⟨own, holds⟩ := law.attempt invocation (Table.mem_of_find found)
  exact holds.eq_of_link stored link ▸ holds

/-- The reservation of an attempt that may be reconciled is not committed. -/
theorem not_resettled
    (law : db.Paired)
    {env : Env}
    {discipline : Discipline}
    {origin : Origin}
    {callbacks : FinalizeCallbacks}
    {payload : Option Receipt → Option InvokeResult}
    {reservation : Reservation}
    {invocation : Invocation}
    {accounts : Table Account}
    {claims : Table IdempotencyRecord}
    {event : ReconciliationEvent}
    (resettling :
      Resettled env callbacks db reservation invocation accounts claims)
    (via :
      SuccessVia env discipline origin callbacks invocation
        .reconciledCommitted payload [event])
    (link : invocation.reservationId = some reservation.id) :
    False := by
  have phase :=
    (law.holdsFor resettling.invocationFound resettling.reservationFound
      link).phase
  rw [resettling.committed] at phase
  cases via with
  | reconciled fromStatus =>
      simp only [reconcileFrom, List.mem_cons, List.not_mem_nil,
        or_false] at fromStatus
      rcases fromStatus with isStatus | isStatus <;>
        rw [isStatus] at phase <;> cases phase

/-! ## Steps -/

/-- A new attempt comes with its own reservation. -/
theorem opened
    (law : db.Paired)
    {old : Mandate}
    {reservation : Reservation}
    {invocation : Invocation}
    {reservations : Table Reservation}
    {invocations : Table Invocation}
    {claims : Table IdempotencyRecord}
    (opening :
      Opened db old reservation invocation reservations invocations claims)
    (taskId : Option Id) :
    (openedDb db old reservation taskId reservations invocations
      claims).Paired := by
  have fresh : db.reservations.find reservation.id = none :=
    (Table.insert?_eq_some opening.debit.inserted).1
  have newFound : reservations.find reservation.id = some reservation :=
    Table.find_of_mem
      ((Table.mem_insert opening.debit.inserted).mpr (.inr rfl))
  have held : invocation.status.hold = .held := by
    rw [opening.reserved]
    rfl
  have isRow {row : Invocation} (member : row ∈ invocations.rows) :
      row ∈ db.invocations.rows ∨ row = invocation :=
    (Table.mem_insert opening.inserted).mp member
  -- No older attempt has the new reservation.
  have alone
      {row : Invocation}
      (inOld : row ∈ db.invocations.rows) :
      row.reservationId ≠ invocation.reservationId := by
    intro same
    obtain ⟨own, holds⟩ := law.attempt row inOld
    have sameId : own.id = reservation.id := by
      rw [holds.link, opening.ofReservation] at same
      exact Option.some.inj same
    rw [← sameId, holds.found] at fresh
    cases fresh
  refine
    { noneOk := ?_
      attempt := ?_
      apart := ?_
      earned := ?_ }
  · intro row member
    rcases isRow member with inOld | rfl
    · exact law.noneOk row inOld
    · simp [opening.reserved]
  · intro row member
    rcases isRow member with inOld | rfl
    · obtain ⟨own, holds⟩ := law.attempt row inOld
      exact ⟨own, { holds with
        found :=
          Table.find_insert_of_some opening.debit.inserted holds.found }⟩
    · exact ⟨reservation,
        { link := opening.ofReservation
          found := newFound
          phase := by rw [held, opening.debit.held]
          sameAmount := opening.sameAmount.symm
          samePrincipal := by
            rw [opening.debit.ofPrincipal, opening.ofPrincipal] }⟩
  · intro first member second member' same
    rcases isRow member with inOld | rfl
    · rcases isRow member' with inOld' | rfl
      · exact law.apart first inOld second inOld' same
      · exact (alone inOld same).elim
    · rcases isRow member' with inOld' | rfl
      · exact (alone inOld' same.symm).elim
      · rfl
  · intro receipt member id ofThis
    obtain ⟨row, rowFound, committed⟩ := law.earned receipt member id ofThis
    exact ⟨row,
      Table.find_insert_of_some opening.debit.inserted rowFound, committed⟩

/-- An open attempt moves while its reservation stays held. -/
theorem moved
    (law : db.Paired)
    {invocation : Invocation}
    {toStatus : InvocationStatus}
    (found : db.invocations.find invocation.id = some invocation)
    (move : Move invocation.status toStatus) :
    (movedDb db invocation toStatus).Paired := by
  obtain ⟨own, holds⟩ := law.attempt invocation (Table.mem_of_find found)
  obtain ⟨wasHeld, staysHeld, notOk⟩ := move.staysHeld
  obtain ⟨attempt, apart⟩ :=
    law.pairs_put toStatus own found holds (.refl own)
      (by rw [holds.phase, wasHeld, staysHeld]) holds.found
      (fun _ _ => rfl)
  exact
    { noneOk := law.noneOk_put notOk
      attempt := attempt
      apart := apart
      earned := law.earned }

/-- An attempt ends with its reservation. -/
theorem ended
    (law : db.Paired)
    {reservation : Reservation}
    {invocation : Invocation}
    {toStatus : InvocationStatus}
    (found : db.invocations.find invocation.id = some invocation)
    (holds : HoldsFor db.reservations invocation reservation)
    (notOk : toStatus ≠ .executedOk)
    (receipts : Table Receipt)
    (earned :
      ∀ receipt ∈ receipts.rows, ∀ id, receipt.reservationId = some id →
        ∃ row,
          (db.reservations.put
                { reservation with status := toStatus.hold }).find
              id =
            some row ∧
            row.status = .committed) :
    ({ db with
        reservations :=
          db.reservations.put { reservation with status := toStatus.hold }
        invocations := db.invocations.put { invocation with status := toStatus }
        receipts := receipts } :
      Db).Paired := by
  have newFound :
      (db.reservations.put { reservation with status := toStatus.hold }).find
          reservation.id =
        some { reservation with status := toStatus.hold } :=
    Table.find_put_self holds.found
  obtain ⟨attempt, apart⟩ :=
    law.pairs_put toStatus { reservation with status := toStatus.hold } found
      holds rfl rfl newFound
      (fun id different =>
        Table.find_put_of_ne (Ne.symm different))
  exact
    { noneOk := law.noneOk_put notOk
      attempt := attempt
      apart := apart
      earned := earned }

/-- The receipts after a settlement are those of committed reservations. -/
theorem earned_settled
    (law : db.Paired)
    {env : Env}
    {callbacks : FinalizeCallbacks}
    {reservation : Reservation}
    {invocation : Invocation}
    {receipt : Option Receipt}
    {receipts : Table Receipt}
    (found : db.reservations.find reservation.id = some reservation)
    (held : reservation.status = .held)
    (link : invocation.reservationId = some reservation.id)
    (addressed : Addressed callbacks invocation)
    (receiptStep :
      ReceiptStep env callbacks db.receipts reservation.id receipts
        receipt) :
    ∀ receipt ∈ receipts.rows, ∀ id, receipt.reservationId = some id →
      ∃ row,
        (db.reservations.put { reservation with status := .committed }).find
            id =
          some row ∧
          row.status = .committed := by
  have kept := law.earned_put found held .committed
  cases receiptStep with
  | skipped => exact kept
  | known => exact kept
  | issued given _ inserted =>
      intro receipt member id ofThis
      rcases (Table.mem_insert inserted).mp member with inOld | rfl
      · exact kept receipt inOld id ofThis
      · have isThis : some reservation.id = some id := by
          rw [← link, ← addressed _ given]
          exact ofThis
        cases isThis
        exact ⟨_, Table.find_put_self found, rfl⟩

/-- Every effect of a paired run keeps the law. -/
theorem step
    {env : Env}
    {discipline : Discipline}
    {origin : Origin}
    {entries : List Entry}
    {db' : Db}
    (law : db.Paired)
    (rule : discipline.paired)
    (effect : Effect env discipline origin db entries db') :
    db'.Paired := by
  cases effect with
  | reservedOnly lowLevel => exact (lowLevel rule).elim
  | opened opening taskId => exact { law.opened opening taskId with }
  | moved found move => exact law.moved found move
  | settled settling via pairing =>
      obtain ⟨link, addressed⟩ := pairing rule
      have found := settling.invocationFound
      have holds := law.holdsFor found settling.reservationFound link
      have earned :=
        law.earned_settled holds.found settling.held link addressed
          settling.receiptStep
      cases via with
      | finalized =>
          exact { law.ended found holds (by decide) _ earned with }
      | reconciled =>
          exact { law.ended found holds (by decide) _ earned with }
  | resettled resettling via pairing =>
      exact (law.not_resettled resettling via (pairing rule)).elim
  | released releasing via pairing =>
      have found := releasing.invocationFound
      have holds :=
        law.holdsFor found releasing.reservationFound (pairing rule)
      have earned := law.earned_put holds.found releasing.held .released
      cases via with
      | finalized =>
          exact { law.ended found holds (by decide) _ earned with }
      | reconciled =>
          exact { law.ended found holds (by decide) _ earned with }
  | committedOnly lowLevel => exact (lowLevel rule).elim
  | refundedOnly lowLevel => exact (lowLevel rule).elim
  | _ => exact { law with }

/-- The empty tables agree. -/
theorem empty : Db.empty.Paired where
  noneOk := by
    intro row member
    cases member
  attempt := by
    intro row member
    cases member
  apart := by
    intro row member
    cases member
  earned := by
    intro receipt member
    cases member

end Db.Paired

/-- In every reachable state of a paired run the tables agree. -/
theorem reachable_paired
    {env : Env}
    {allowed : Sys → Action → Prop}
    {s : Sys}
    (discipline : Discipline)
    (rule : discipline.paired)
    (keeps : ∀ s action, allowed s action → discipline.Allows action)
    (reachable : Reachable env allowed s) :
    s.db.Paired := by
  apply reachable_db_invariant discipline Db.Paired keeps .empty _ reachable
  intro s origin entries db' _ effect law
  exact law.step rule effect

end Crossing

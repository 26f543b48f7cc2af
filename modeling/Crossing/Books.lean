import Crossing.Steps
import Crossing.DelegationForest

namespace Crossing

open Relational

/-!
# The books

The money of the system is in three tables: mandates, reservations and ledger
events.  `BookStep` is an abstract machine on these three alone, in which each
movement of money comes with its event.  Every transaction refines one of its
steps, so what its runs conserve the database conserves.
-/

/-- The tables that account for money. -/
structure Books where
  mandates : Table Mandate
  reservations : Table Reservation
  events : List LedgerEvent

/-- The books of a database. -/
def Db.books (db : Db) : Books where
  mandates := db.mandates
  reservations := db.reservations
  events := db.ledgerEvents

/-- An event of a reservation carries its mandate and its amount. -/
structure IsEventOf
    (event : LedgerEvent)
    (kind : EventKind)
    (reservation : Reservation) :
    Prop where
  isKind : event.kind = kind
  sameMandate : event.mandateId = reservation.mandateId
  ofReservation : event.reservationId = some reservation.id
  sameAmount : event.amountCents = reservation.amountCents

/-- The event that the ledger writes for a reservation is one of it. -/
theorem isEventOf_reservationEvent
    (reservation : Reservation)
    (kind : EventKind)
    (remaining : Option Cents)
    (taskId : Option Id) :
    IsEventOf (reservationEvent reservation kind remaining taskId) kind
      reservation :=
  ⟨rfl, rfl, rfl, rfl⟩

/-- The movements of money, each with its event. -/
inductive BookStep (books : Books) : Books → Prop where
  | still : BookStep books books
  | denied
      {event : LedgerEvent}
      (isDeny : event.kind = .deny) :
      BookStep books { books with events := books.events ++ [event] }
  | flagged (mandateId : Id) :
      BookStep books
        { books with
          mandates := books.mandates.modify mandateId fun row =>
            { row with revoked := true } }
  | issuedRoot
      {mandate : Mandate}
      {mandates : Table Mandate}
      (inserted : books.mandates.insert? mandate = some mandates)
      (full : mandate.remainingCents = mandate.spendLimitCents)
      (nonnegative : 0 ≤ mandate.spendLimitCents)
      (root : mandate.parentMandateId = none)
      (unused : mandate.callsUsed = 0) :
      BookStep books { books with mandates := mandates }
  | issuedChild
      {mandate parent : Mandate}
      {mandates : Table Mandate}
      {event : LedgerEvent}
      (inserted : books.mandates.insert? mandate = some mandates)
      (full : mandate.remainingCents = mandate.spendLimitCents)
      (nonnegative : 0 ≤ mandate.spendLimitCents)
      (parentFound : books.mandates.find parent.id = some parent)
      (link : mandate.parentMandateId = some parent.id)
      (covered : mandate.spendLimitCents ≤ parent.remainingCents)
      (isEscrow :
        event.kind = .escrow ∧
          event.mandateId = parent.id ∧
          event.amountCents = mandate.spendLimitCents)
      (unused : mandate.callsUsed = 0) :
      BookStep books
        { books with
          mandates := mandates.put (escrowed mandate.spendLimitCents parent)
          events := books.events ++ [event] }
  | debited
      {old : Mandate}
      {reservation : Reservation}
      {reservations : Table Reservation}
      {event : LedgerEvent}
      (found : books.mandates.find old.id = some old)
      (covered : reservation.amountCents ≤ old.remainingCents)
      (nonnegative : 0 ≤ reservation.amountCents)
      (ofMandate : reservation.mandateId = old.id)
      (held : reservation.status = .held)
      (inserted :
        books.reservations.insert? reservation = some reservations)
      (isReserve : IsEventOf event .reserve reservation)
      (belowMax : ∀ maxCalls ∈ old.maxCalls, old.callsUsed < maxCalls) :
      BookStep books
        { mandates :=
            books.mandates.put (debited reservation.amountCents old)
          reservations := reservations
          events := books.events ++ [event] }
  | settled
      {reservation : Reservation}
      {event : LedgerEvent}
      (found : books.reservations.find reservation.id = some reservation)
      (held : reservation.status = .held)
      (isCommit : IsEventOf event .commit reservation) :
      BookStep books
        { books with
          reservations :=
            books.reservations.put { reservation with status := .committed }
          events := books.events ++ [event] }
  | refunded
      {reservation : Reservation}
      {event : LedgerEvent}
      (found : books.reservations.find reservation.id = some reservation)
      (held : reservation.status = .held)
      (isRelease : IsEventOf event .release reservation) :
      BookStep books
        { mandates := refundedMandates books.mandates reservation
          reservations :=
            books.reservations.put { reservation with status := .released }
          events := books.events ++ [event] }

/-- Every committed transaction refines a step of the books. -/
theorem Effect.books
    {env : Env}
    {discipline : Discipline}
    {origin : Origin}
    {db db' : Db}
    {entries : List Entry}
    (effect : Effect env discipline origin db entries db') :
    BookStep db.books db'.books := by
  cases effect with
  | booked => exact .still
  | registered => exact .still
  | agentAdded => exact .still
  | agentsRevoked => exact .still
  | relinked => exact .still
  | drained => exact .still
  | denied isDeny => exact .denied isDeny
  | issuedRoot issued root =>
      exact .issuedRoot issued.inserted issued.full issued.nonnegative root
        issued.unused
  | issuedChild issued parentFound link covered _ isEscrow =>
      exact .issuedChild issued.inserted issued.full issued.nonnegative
        parentFound link covered isEscrow issued.unused
  | mandateRevoked mandateId => exact .flagged mandateId
  | reservedOnly _ debit taskId =>
      exact .debited debit.found debit.covered debit.nonnegative
        debit.ofMandate debit.held debit.inserted
        (isEventOf_reservationEvent _ _ _ _) debit.belowMax
  | opened opening =>
      have debit := opening.debit
      exact .debited debit.found debit.covered debit.nonnegative
        debit.ofMandate debit.held debit.inserted
        (isEventOf_reservationEvent _ _ _ _) debit.belowMax
  | moved => exact .still
  | settled settling =>
      exact .settled settling.reservationFound settling.held
        (isEventOf_reservationEvent _ _ _ _)
  | resettled => exact .still
  | released releasing =>
      exact .refunded releasing.reservationFound releasing.held
        (isEventOf_reservationEvent _ _ _ _)
  | committedOnly _ found held =>
      exact .settled found held (isEventOf_reservationEvent _ _ _ _)
  | refundedOnly _ found held =>
      exact .refunded found held (isEventOf_reservationEvent _ _ _ _)

/-! ## What is held, committed and delegated -/

/-- A reservation that still counts against its mandate. -/
def Reservation.isLive (reservation : Reservation) : Bool :=
  reservation.status = .held || reservation.status = .committed

namespace Books

/-- The amounts of the live reservations of a mandate. -/
def liveAmount (books : Books) (mandateId : Id) : Cents :=
  books.reservations.sumWhere
    (fun row => row.mandateId = mandateId && row.isLive)
    Reservation.amountCents

/-- The limits of the direct children of a mandate. -/
def delegated (books : Books) (mandateId : Id) : Cents :=
  books.mandates.sumWhere
    (fun row => row.parentMandateId = some mandateId)
    Mandate.spendLimitCents

/-- The parent of a mandate. -/
def parentOf (books : Books) (mandateId : Id) : Option Id :=
  (books.mandates.find mandateId).bind Mandate.parentMandateId

open scoped Classical in
/-- The amounts of the live reservations in the subtree of a mandate. -/
noncomputable def subtreeAmount (books : Books) (root : Id) : Cents :=
  books.reservations.sumWhere
    (fun row =>
      decide
          (Delegation.SelfOrAncestor books.parentOf row.mandateId root) &&
        row.isLive)
    Reservation.amountCents

/-- The law of the books. -/
structure Balanced (books : Books) : Prop where
  covered : ∀ row ∈ books.mandates.rows, 0 ≤ row.remainingCents
  conserved :
    ∀ row ∈ books.mandates.rows,
      row.spendLimitCents =
        row.remainingCents + books.liveAmount row.id +
          books.delegated row.id
  limits : ∀ row ∈ books.mandates.rows, 0 ≤ row.spendLimitCents
  amounts : ∀ row ∈ books.reservations.rows, 0 ≤ row.amountCents
  ofMandate :
    ∀ row ∈ books.reservations.rows,
      ∃ mandate, books.mandates.find row.mandateId = some mandate
  ofParent :
    ∀ row ∈ books.mandates.rows, ∀ parentId,
      row.parentMandateId = some parentId →
        ∃ parent, books.mandates.find parentId = some parent
  ranked : Delegation.Ranked books.parentOf

end Books

end Crossing

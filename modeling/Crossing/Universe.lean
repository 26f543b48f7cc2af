import Crossing.Pairing

namespace Crossing

open Relational

/-!
# One universe for each attempt

With callbacks that bill the attempt, its receipt and its outbox row belong to
the pair as well.  `Coupled` is the law of the tables together, and each attempt
is then in exactly one universe: open, committed or released.
-/

/-- A receipt of a stored reservation. -/
structure ReceiptFor
    (reservations : Table Reservation)
    (receipt : Receipt)
    (reservation : Reservation) :
    Prop where
  link : receipt.reservationId = some reservation.id
  found : reservations.find reservation.id = some reservation
  sameAmount : receipt.amountCents = reservation.amountCents
  samePrincipal : receipt.principalId = reservation.principalId

/-- An outbox row of a stored receipt. -/
structure BillFor
    (receipts : Table Receipt)
    (row : Outbox)
    (receipt : Receipt) :
    Prop where
  found : receipts.find row.receiptId = some receipt
  sameAmount : row.payloadJson.amountCents = receipt.amountCents
  samePrincipal : row.payloadJson.principalId = receipt.principalId

/-- Attempts, reservations, receipts and outbox rows agree. -/
structure Db.Coupled (db : Db) : Prop extends db.Paired where
  receipt :
    ∀ receipt ∈ db.receipts.rows,
      ∃ reservation, ReceiptFor db.reservations receipt reservation
  receipted :
    ∀ reservation ∈ db.reservations.rows,
      db.receipts.countWhere
          (fun row => row.reservationId = some reservation.id) =
        indicator reservation.status .committed
  bill :
    ∀ row ∈ db.billingOutbox.rows, ∃ receipt, BillFor db.receipts row receipt
  billed :
    ∀ receipt ∈ db.receipts.rows,
      db.billingOutbox.countWhere (fun row => row.receiptId = receipt.id) = 1

/-- A receipt stays one of its reservation. -/
theorem ReceiptFor.extend
    {reservations reservations' : Table Reservation}
    {receipt : Receipt}
    {reservation : Reservation}
    (receiptFor : ReceiptFor reservations receipt reservation)
    (later : reservations.Extends Reservation.SameHold reservations') :
    ∃ reservation', ReceiptFor reservations' receipt reservation' := by
  obtain ⟨reservation', found, same⟩ := later _ _ receiptFor.found
  refine ⟨reservation', ?_⟩
  rw [same] at found ⊢
  exact
    { link := receiptFor.link
      found := found
      sameAmount := receiptFor.sameAmount
      samePrincipal := receiptFor.samePrincipal }

/-- A new receipt leaves the bills of the others alone. -/
theorem BillFor.insert
    {receipts receipts' : Table Receipt}
    {row : Outbox}
    {receipt issued : Receipt}
    (billFor : BillFor receipts row receipt)
    (inserted : receipts.insert? issued = some receipts') :
    BillFor receipts' row receipt :=
  { billFor with
    found := Table.find_insert_of_some inserted billFor.found }

namespace Db.Coupled

variable {db : Db}

/-- A reservation that is not stored has no receipt. -/
theorem receipts_fresh
    (law : db.Coupled)
    {reservationId : Id}
    (fresh : db.reservations.find reservationId = none) :
    db.receipts.countWhere
        (fun row => row.reservationId = some reservationId) =
      0 := by
  rw [Table.countWhere_eq_zero_iff]
  intro receipt member
  obtain ⟨reservation, receiptFor⟩ := law.receipt receipt member
  have different : receipt.reservationId ≠ some reservationId := by
    intro same
    have sameId : reservation.id = reservationId :=
      Option.some.inj (receiptFor.link.symm.trans same)
    rw [← sameId, receiptFor.found] at fresh
    cases fresh
  simp [different]

/-- A held reservation has no receipt. -/
theorem receipts_held
    (law : db.Coupled)
    {reservation : Reservation}
    (found : db.reservations.find reservation.id = some reservation)
    (held : reservation.status = .held) :
    ∀ row ∈ db.receipts.rows, row.reservationId ≠ some reservation.id := by
  intro row member same
  have committed := law.earned_committed member found same
  rw [held] at committed
  cases committed

/-- A receipt that is not stored has no outbox row. -/
theorem bills_fresh
    (law : db.Coupled)
    {receiptId : Id}
    (fresh : db.receipts.find receiptId = none) :
    ∀ row ∈ db.billingOutbox.rows, row.receiptId ≠ receiptId := by
  intro row member same
  obtain ⟨receipt, billFor⟩ := law.bill row member
  rw [← same, billFor.found] at fresh
  cases fresh

end Db.Coupled

/-! ## The settlement of a paired attempt -/

/-- The receipt, the outbox row and the fee of one reservation. -/
structure Metered
    (env : Env)
    (db : Db)
    (reservation : Reservation)
    (receipt : Receipt)
    (receipts : Table Receipt)
    (outbox : Table Outbox)
    (accounts : Table Account) :
    Prop where
  link : receipt.reservationId = some reservation.id
  sameAmount : receipt.amountCents = reservation.amountCents
  samePrincipal : receipt.principalId = reservation.principalId
  inserted : db.receipts.insert? receipt = some receipts
  billed :
    ∃ newId,
      db.billingOutbox.insert?
          (pendingOutbox env
            (accountForPrincipal db reservation.principalId) receipt.id
            reservation.amountCents reservation.principalId newId) =
        some outbox
  charged :
    accounts =
      feeCharged env db.accounts
        (accountForPrincipal db reservation.principalId)
        reservation.amountCents

namespace Db.Coupled

variable {db : Db}

/-- A paired settlement meters its reservation once. -/
theorem metered
    (law : db.Coupled)
    {env : Env}
    {callbacks : FinalizeCallbacks}
    {payload : Option Receipt → Option InvokeResult}
    {reservation : Reservation}
    {invocation : Invocation}
    {receipt : Option Receipt}
    {receipts : Table Receipt}
    {outbox : Table Outbox}
    {accounts : Table Account}
    {claims : Table IdempotencyRecord}
    (settling :
      Settled env callbacks payload db reservation invocation receipt
        receipts outbox accounts claims)
    (holds : HoldsFor db.reservations invocation reservation)
    (bills : Bills callbacks invocation) :
    ∃ issued,
      receipt = some issued ∧
        Metered env db reservation issued receipts outbox accounts := by
  obtain ⟨args, isReceiptFn, ofReservation, ofPrincipal, ofAmount⟩ :=
    bills.receipt
  obtain ⟨billingArgs, isBillingFn, billPrincipal, billAmount⟩ :=
    bills.billing
  have unreceipted :=
    law.receipts_held settling.reservationFound settling.held
  cases settling.receiptStep with
  | skipped noReceipt =>
      rw [isReceiptFn] at noReceipt
      cases noReceipt
  | known member ofThis =>
      exact (unreceipted _ member ofThis).elim
  | @issued given receipts isGiven unissued inserted =>
      rw [isReceiptFn] at isGiven
      cases isGiven
      have fresh := (Table.insert?_eq_some inserted).1
      cases settling.billingStep with
      | skipped nothing =>
          rcases nothing with noBilling | noReceipt
          · rw [isBillingFn] at noBilling
            cases noBilling
          · cases noReceipt
      | already member ofReceipt =>
          exact (law.bills_fresh fresh _ member ofReceipt).elim
      | enqueued isGiven isAccount unbilled insertedBill =>
          rw [isBillingFn] at isGiven
          cases isGiven
          rw [billPrincipal, ← holds.samePrincipal] at isAccount
          subst isAccount
          rw [billAmount, billPrincipal, ← holds.sameAmount,
            ← holds.samePrincipal] at insertedBill
          refine ⟨_, rfl, ?_⟩
          exact
            { link := ofReservation.trans holds.link
              sameAmount := ofAmount.trans holds.sameAmount.symm
              samePrincipal := ofPrincipal.trans holds.samePrincipal.symm
              inserted := inserted
              billed := ⟨_, insertedBill⟩
              charged := by
                rw [billAmount, ← holds.sameAmount]
                rfl }

/-! ## Steps -/

/-- A new attempt has no receipt yet. -/
theorem opened
    (law : db.Coupled)
    {old : Mandate}
    {reservation : Reservation}
    {invocation : Invocation}
    {reservations : Table Reservation}
    {invocations : Table Invocation}
    {claims : Table IdempotencyRecord}
    (opening :
      Opened db old reservation invocation reservations invocations claims)
    (taskId : Option Id) :
    (openedDb db old reservation taskId reservations invocations
      claims).Coupled := by
  have fresh : db.reservations.find reservation.id = none :=
    (Table.insert?_eq_some opening.debit.inserted).1
  refine
    { law.toPaired.opened opening taskId with
      receipt := ?_
      receipted := ?_
      bill := law.bill
      billed := law.billed }
  · intro receipt member
    obtain ⟨own, receiptFor⟩ := law.receipt receipt member
    exact receiptFor.extend
      (.insert Reservation.SameHold.refl opening.debit.inserted)
  · intro row member
    rcases (Table.mem_insert opening.debit.inserted).mp member with
      inOld | rfl
    · exact law.receipted row inOld
    · rw [opening.debit.held]
      exact law.receipts_fresh fresh

/-- A settlement leaves one receipt and one outbox row. -/
theorem settled
    (law : db.Coupled)
    {env : Env}
    {reservation : Reservation}
    {issued : Receipt}
    {accounts : Table Account}
    {db' : Db}
    (found : db.reservations.find reservation.id = some reservation)
    (held : reservation.status = .held)
    (metering :
      Metered env db reservation issued db'.receipts db'.billingOutbox
        accounts)
    (paired : db'.Paired)
    (newReservations :
      db'.reservations =
        db.reservations.put { reservation with status := .committed }) :
    db'.Coupled := by
  have newFound :
      (db.reservations.put { reservation with status := .committed }).find
          reservation.id =
        some { reservation with status := .committed } :=
    Table.find_put_self found
  obtain ⟨newId, insertedBill⟩ := metering.billed
  have fresh : db.receipts.find issued.id = none :=
    (Table.insert?_eq_some metering.inserted).1
  have issuedFound : db'.receipts.find issued.id = some issued :=
    Table.find_of_mem
      ((Table.mem_insert metering.inserted).mpr (.inr rfl))
  rw [← newReservations] at newFound
  refine
    { paired with
      receipt := ?_
      receipted := ?_
      bill := ?_
      billed := ?_ }
  · intro receipt member
    rcases (Table.mem_insert metering.inserted).mp member with inOld | rfl
    · obtain ⟨own, receiptFor⟩ := law.receipt receipt inOld
      rw [newReservations]
      exact receiptFor.extend (transitioned_extends found _)
    · exact ⟨{ reservation with status := .committed },
        { link := metering.link
          found := newFound
          sameAmount := metering.sameAmount
          samePrincipal := metering.samePrincipal }⟩
  · intro row member
    rw [newReservations] at member
    rw [Table.countWhere_insert metering.inserted]
    rcases Table.mem_put member with rfl | ⟨inOld, different⟩
    · have none_ :
          db.receipts.countWhere
              (fun row => row.reservationId = some reservation.id) =
            0 := by
        rw [Table.countWhere_eq_zero_iff]
        intro receipt isReceipt
        simpa using law.receipts_held found held receipt isReceipt
      simp [none_, metering.link, indicator]
    · have notThis : issued.reservationId ≠ some row.id := by
        rw [metering.link]
        exact fun same => different (Option.some.inj same).symm
      simpa [notThis] using law.receipted row inOld
  · intro row member
    rcases (Table.mem_insert insertedBill).mp member with inOld | rfl
    · obtain ⟨receipt, billFor⟩ := law.bill row inOld
      exact ⟨receipt, billFor.insert metering.inserted⟩
    · exact ⟨issued,
        { found := issuedFound
          sameAmount := metering.sameAmount.symm
          samePrincipal := metering.samePrincipal.symm }⟩
  · intro receipt member
    rw [Table.countWhere_insert insertedBill]
    rcases (Table.mem_insert metering.inserted).mp member with inOld | rfl
    · have different : issued.id ≠ receipt.id := by
        intro same
        have receiptFound : db.receipts.find receipt.id = some receipt :=
          Table.find_of_mem inOld
        rw [← same, fresh] at receiptFound
        cases receiptFound
      simpa [pendingOutbox, different] using law.billed receipt inOld
    · have none_ :
          db.billingOutbox.countWhere
              (fun row => row.receiptId = receipt.id) =
            0 := by
        rw [Table.countWhere_eq_zero_iff]
        intro row isRow
        simpa using law.bills_fresh fresh row isRow
      simp [none_, pendingOutbox]

/-- A release leaves no receipt. -/
theorem released
    (law : db.Coupled)
    {reservation : Reservation}
    (found : db.reservations.find reservation.id = some reservation)
    (held : reservation.status = .held)
    {db' : Db}
    (paired : db'.Paired)
    (newReservations :
      db'.reservations =
        db.reservations.put { reservation with status := .released })
    (sameReceipts : db'.receipts = db.receipts)
    (sameOutbox : db'.billingOutbox = db.billingOutbox) :
    db'.Coupled := by
  refine
    { paired with
      receipt := ?_
      receipted := ?_
      bill := ?_
      billed := ?_ }
  · intro receipt member
    rw [sameReceipts] at member
    obtain ⟨own, receiptFor⟩ := law.receipt receipt member
    rw [newReservations]
    exact receiptFor.extend (transitioned_extends found _)
  · intro row member
    rw [newReservations] at member
    rw [sameReceipts]
    rcases Table.mem_put member with rfl | ⟨inOld, _⟩
    · have count := law.receipted reservation (Table.mem_of_find found)
      rw [held] at count
      exact count
    · exact law.receipted row inOld
  · rw [sameReceipts, sameOutbox]
    exact law.bill
  · rw [sameReceipts, sameOutbox]
    exact law.billed

/-- The drain of the outbox leaves the bills alone. -/
theorem drained
    (law : db.Coupled)
    {outbox : Table Outbox}
    (sameBills :
      outbox.rows.map Outbox.bill = db.billingOutbox.rows.map Outbox.bill) :
    ({ db with billingOutbox := outbox } : Db).Coupled where
  toPaired := { law.toPaired with }
  receipt := law.receipt
  receipted := law.receipted
  bill := by
    intro row member
    have inBills : row.bill ∈ db.billingOutbox.rows.map Outbox.bill :=
      sameBills ▸ List.mem_map_of_mem member
    obtain ⟨old, inOld, sameBill⟩ := List.mem_map.mp inBills
    obtain ⟨sameReceipt, samePayload⟩ := Prod.mk.inj sameBill
    obtain ⟨receipt, billFor⟩ := law.bill old inOld
    exact ⟨receipt,
      { found := sameReceipt ▸ billFor.found
        sameAmount := samePayload ▸ billFor.sameAmount
        samePrincipal := samePayload ▸ billFor.samePrincipal }⟩
  billed := by
    intro receipt member
    have sameCount :=
      Table.countWhere_eq_of_map_eq sameBills fun bill =>
        bill.1 = receipt.id
    exact sameCount.trans (law.billed receipt member)

/-- Every effect of a paired run that meters its attempts keeps the law. -/
theorem step
    {env : Env}
    {discipline : Discipline}
    {origin : Origin}
    {entries : List Entry}
    {db' : Db}
    (law : db.Coupled)
    (paired : discipline.paired)
    (metered : discipline.metered)
    (effect : Effect env discipline origin db entries db') :
    db'.Coupled := by
  have pairs := law.toPaired.step paired effect
  cases effect with
  | drained sameBills => exact law.drained sameBills
  | reservedOnly lowLevel => exact (lowLevel paired).elim
  | opened opening taskId => exact { law.opened opening taskId with }
  | settled settling via pairing metering =>
      have holds :=
        law.holdsFor settling.invocationFound settling.reservationFound
          (pairing paired).1
      obtain ⟨issued, _, metering⟩ :=
        law.metered settling holds (metering metered)
      exact law.settled holds.found settling.held metering pairs rfl
  | resettled resettling via pairing =>
      exact (law.not_resettled resettling via (pairing paired)).elim
  | released releasing =>
      exact law.released releasing.reservationFound releasing.held pairs rfl
        rfl rfl
  | committedOnly lowLevel => exact (lowLevel paired).elim
  | refundedOnly lowLevel => exact (lowLevel paired).elim
  | _ => exact { law with toPaired := pairs }

/-- The empty tables agree. -/
theorem empty : Db.empty.Coupled where
  toPaired := .empty
  receipt := by
    intro row member
    cases member
  receipted := by
    intro row member
    cases member
  bill := by
    intro row member
    cases member
  billed := by
    intro row member
    cases member

end Db.Coupled

/-! ## Every run -/

/-- In every reachable state of a paired and metered run the tables agree. -/
theorem reachable_coupled
    {env : Env}
    {allowed : Sys → Action → Prop}
    {s : Sys}
    (discipline : Discipline)
    (paired : discipline.paired)
    (metered : discipline.metered)
    (keeps : ∀ s action, allowed s action → discipline.Allows action)
    (reachable : Reachable env allowed s) :
    s.db.Coupled := by
  apply reachable_db_invariant discipline Db.Coupled keeps .empty _ reachable
  intro s origin entries db' _ effect law
  exact law.step paired metered effect

/--
The rules that finalizers are called with what belongs to the attempt and bill
it.
-/
def Discipline.coupled : Discipline :=
  { Discipline.free with paired := True, metered := True }

/-- The outbox rows that bill a receipt of a reservation. -/
def billCount (db : Db) (reservationId : Id) : Nat :=
  db.billingOutbox.countWhere fun row =>
    db.receipts.rows.any fun receipt =>
      receipt.id = row.receiptId &&
        receipt.reservationId = some reservationId

/-- How many traces of its end a reservation has left. -/
structure Traces
    (db : Db)
    (reservationId : Id)
    (commits releases receipts bills : Nat) :
    Prop where
  commits : eventCount db.ledgerEvents .commit reservationId = commits
  releases : eventCount db.ledgerEvents .release reservationId = releases
  receipts :
    db.receipts.countWhere
        (fun row => row.reservationId = some reservationId) =
      receipts
  bills : billCount db reservationId = bills

/-- Every trace of a reservation carries its amount. -/
structure CarriesAmount (db : Db) (reservation : Reservation) : Prop where
  events :
    ∀ event ∈ db.ledgerEvents, event.kind.ofReservation = true →
      event.reservationId = some reservation.id →
        event.amountCents = reservation.amountCents
  receipts :
    ∀ receipt ∈ db.receipts.rows,
      receipt.reservationId = some reservation.id →
        receipt.amountCents = reservation.amountCents
  bills :
    ∀ row ∈ db.billingOutbox.rows, ∀ receipt ∈ db.receipts.rows,
      receipt.id = row.receiptId →
        receipt.reservationId = some reservation.id →
          row.payloadJson.amountCents = reservation.amountCents

/-- The ends that an attempt can come to, and that it has not come to one. -/
inductive Universe where
  | open
  | committed
  | released
  deriving Repr, DecidableEq

/-- What holds of an attempt and its reservation in each universe. -/
def Universe.Holds
    (db : Db)
    (invocation : Invocation)
    (reservation : Reservation) :
    Universe → Prop
  | .open =>
      reservation.status = .held ∧
        invocation.status ∈
          [InvocationStatus.reserved, .executing, .executedFail,
            .ambiguous] ∧
        Traces db reservation.id 0 0 0 0
  | .committed =>
      reservation.status = .committed ∧
        invocation.status ∈
          [InvocationStatus.committed, .reconciledCommitted] ∧
        Traces db reservation.id 1 0 1 1 ∧
        CarriesAmount db reservation
  | .released =>
      reservation.status = .released ∧
        invocation.status ∈
          [InvocationStatus.released, .reconciledReleased] ∧
        Traces db reservation.id 0 1 0 0 ∧
        CarriesAmount db reservation

/-- The reservation status of a universe. -/
def Universe.status : Universe → ReservationStatus
  | .open => .held
  | .committed => .committed
  | .released => .released

/-- A universe fixes the status of the reservation. -/
theorem Universe.Holds.status_eq
    {db : Db}
    {invocation : Invocation}
    {reservation : Reservation}
    {universe_ : Universe}
    (holds : universe_.Holds db invocation reservation) :
    reservation.status = universe_.status := by
  cases universe_ with
  | «open» => exact holds.1
  | committed => exact holds.1
  | released => exact holds.1

namespace Db.Coupled

variable {db : Db}

/-- Receipts and bills of a reservation come together. -/
theorem billCount_eq
    (law : db.Coupled)
    {reservation : Reservation}
    (member : reservation ∈ db.reservations.rows) :
    billCount db reservation.id =
      indicator reservation.status .committed := by
  have count := law.receipted reservation member
  by_cases committed : reservation.status = .committed
  · have one :
        db.receipts.countWhere
            (fun row => row.reservationId = some reservation.id) =
          1 := by
      rw [count, indicator, if_pos committed]
    obtain ⟨receipt, isReceipt, ofThis⟩ :=
      Table.exists_of_countWhere_ne_zero
        (show db.receipts.countWhere _ ≠ 0 by rw [one]; decide)
    rw [indicator, if_pos committed, ← law.billed receipt isReceipt]
    apply Table.countWhere_congr
    intro row _
    rw [Bool.eq_iff_iff, List.any_eq_true, decide_eq_true_eq]
    constructor
    · rintro ⟨other, isOther, both⟩
      obtain ⟨sameId, ofReservation⟩ := Bool.and_eq_true_iff.mp both
      have isSame :=
        Table.eq_of_countWhere_eq_one one isOther ofReservation isReceipt
          ofThis
      rw [← isSame]
      exact (of_decide_eq_true sameId).symm
    · intro ofReceipt
      refine ⟨receipt, isReceipt, ?_⟩
      rw [ofThis, Bool.and_true, decide_eq_true_eq, ofReceipt]
  · rw [indicator, if_neg committed] at count ⊢
    unfold billCount
    rw [Table.countWhere_eq_zero_iff]
    intro row _
    rw [List.any_eq_false]
    intro receipt isReceipt
    have notThis :=
      (Table.countWhere_eq_zero_iff _ _).mp count receipt isReceipt
    simp [of_decide_eq_false notThis]

/-- The traces of a reservation tell its status. -/
theorem traces
    (law : db.Coupled)
    (audited : db.books.Audited)
    {reservation : Reservation}
    (member : reservation ∈ db.reservations.rows) :
    Traces db reservation.id
      (indicator reservation.status .committed)
      (indicator reservation.status .released)
      (indicator reservation.status .committed)
      (indicator reservation.status .committed) := by
  obtain ⟨_, commits, releases⟩ := audited.counted reservation member
  exact
    { commits := commits
      releases := releases
      receipts := law.receipted reservation member
      bills := law.billCount_eq member }

/-- The traces of a reservation carry its amount. -/
theorem carriesAmount
    (law : db.Coupled)
    (audited : db.books.Audited)
    {reservation : Reservation}
    (found : db.reservations.find reservation.id = some reservation) :
    CarriesAmount db reservation := by
  have ofReceipt
      {receipt : Receipt}
      (isReceipt : receipt ∈ db.receipts.rows)
      (ofThis : receipt.reservationId = some reservation.id) :
      receipt.amountCents = reservation.amountCents := by
    obtain ⟨own, receiptFor⟩ := law.receipt receipt isReceipt
    have sameId : own.id = reservation.id :=
      Option.some.inj (receiptFor.link.symm.trans ofThis)
    have isOwn : own = reservation := by
      have ownFound := receiptFor.found
      rw [sameId, found] at ownFound
      exact (Option.some.inj ownFound).symm
    rw [receiptFor.sameAmount, isOwn]
  refine { events := ?_, receipts := ?_, bills := ?_ }
  · intro event inLog isKind ofThis
    obtain ⟨row, rowFound, sameAmount⟩ :=
      audited.reservationKnown event inLog isKind reservation.id ofThis
    have isRow : row = reservation :=
      Option.some.inj (rowFound.symm.trans found)
    rw [sameAmount, isRow]
  · intro receipt isReceipt ofThis
    exact ofReceipt isReceipt ofThis
  · intro row isRow receipt isReceipt sameId ofThis
    obtain ⟨billed, billFor⟩ := law.bill row isRow
    have isBilled : billed = receipt := by
      have receiptFound : db.receipts.find receipt.id = some receipt :=
        Table.find_of_mem isReceipt
      have billedFound := billFor.found
      rw [← sameId, receiptFound] at billedFound
      exact (Option.some.inj billedFound).symm
    rw [billFor.sameAmount, isBilled, ofReceipt isReceipt ofThis]

end Db.Coupled

/-- An attempt is in exactly one universe, with all that belongs to it. -/
theorem one_terminal_universe
    {env : Env}
    {s : Sys}
    {invocation : Invocation}
    (reachable :
      Reachable env (fun _ action => Discipline.coupled.Allows action) s)
    (member : invocation ∈ s.db.invocations.rows) :
    ∃ reservation,
      invocation.reservationId = some reservation.id ∧
        s.db.reservations.find reservation.id = some reservation ∧
        ∃! universe_ : Universe,
          universe_.Holds s.db invocation reservation := by
  have law :=
    reachable_coupled .coupled trivial trivial (fun _ _ kept => kept) reachable
  have audited := reachable_audited reachable
  obtain ⟨reservation, holds⟩ := law.attempt invocation member
  have traces := law.traces audited (Table.mem_of_find holds.found)
  have carries := law.carriesAmount audited holds.found
  have phase := holds.phase
  have notOk := law.noneOk invocation member
  refine ⟨reservation, holds.link, holds.found, ?_⟩
  have exists_ :
      ∃ universe_ : Universe,
        universe_.Holds s.db invocation reservation := by
    rw [phase] at traces
    cases status : invocation.status <;> rw [status] at phase traces
    case executedOk => exact (notOk status).elim
    case reserved | executing | executedFail | ambiguous =>
      exact ⟨.open, phase, by simp [status], traces⟩
    case committed | reconciledCommitted =>
      exact ⟨.committed, phase, by simp [status], traces, carries⟩
    case released | reconciledReleased =>
      exact ⟨.released, phase, by simp [status], traces, carries⟩
  obtain ⟨universe_, isUniverse⟩ := exists_
  refine ⟨universe_, isUniverse, ?_⟩
  intro other isOther
  have sameStatus := isOther.status_eq.symm.trans isUniverse.status_eq
  cases other <;> cases universe_ <;> first
    | rfl
    | cases sameStatus

/-- The universe of a settled attempt. -/
theorem one_terminal_universe_example :
    ∃ s invocation reservation,
      Reachable .plain (fun _ action => Discipline.coupled.Allows action)
          s ∧
        invocation ∈ s.db.invocations.rows ∧
        invocation.status = .committed ∧
        invocation.reservationId = some reservation.id ∧
        s.db.reservations.find reservation.id = some reservation ∧
        ∃! universe_ : Universe,
          universe_.Holds s.db invocation reservation := by
  have checked :
      (run .plain Sys.start (deploy ++ settle)).any
          (fun s => (s.db.invocations.find 1).any (·.status = .committed)) =
        true := by
    decide
  obtain ⟨s, reachable, passes⟩ :=
    reachable_of_check (.routine (by decide) .coupled _) checked
  obtain ⟨invocation, found, status⟩ := (Option.any_eq_true _ _).mp passes
  have member := Table.mem_of_find found
  obtain ⟨reservation, link, stored, holds⟩ :=
    one_terminal_universe reachable member
  exact ⟨s, invocation, reservation, reachable, member,
    of_decide_eq_true status, link, stored, holds⟩

end Crossing

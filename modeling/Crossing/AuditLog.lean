import Crossing.Conservation

namespace Crossing

open Relational

/-!
# The ledger events replay to the balances

The ledger is append-only, and each movement of money appends its event in the
transaction that moves it.  So the events alone give the remaining cents of
every mandate and the status of every reservation.
-/

/-! ## Reading the log -/

/-- The amounts of the events of one kind on one mandate. -/
def eventSum
    (events : List LedgerEvent)
    (kind : EventKind)
    (mandateId : Id) :
    Cents :=
  ((events.filter fun event =>
    event.kind = kind && event.mandateId = mandateId).map
      LedgerEvent.amountCents).sum

/-- How many events of one kind a reservation has. -/
def eventCount
    (events : List LedgerEvent)
    (kind : EventKind)
    (reservationId : Id) :
    Nat :=
  events.countP fun event =>
    event.kind = kind && event.reservationId = some reservationId

/-- What an event adds to the remaining cents of its mandate. -/
def LedgerEvent.delta (event : LedgerEvent) : Cents :=
  match event.kind with
  | .reserve | .escrow => -event.amountCents
  | .release => event.amountCents
  | .commit | .deny => 0

/-- What the log adds to the remaining cents of a mandate. -/
def netDelta (events : List LedgerEvent) (mandateId : Id) : Cents :=
  ((events.filter fun event => event.mandateId = mandateId).map
    LedgerEvent.delta).sum

/-- One more event adds its delta to its mandate. -/
theorem netDelta_append
    (events : List LedgerEvent)
    (event : LedgerEvent)
    (mandateId : Id) :
    netDelta (events ++ [event]) mandateId =
      netDelta events mandateId +
        if event.mandateId = mandateId then event.delta else 0 := by
  unfold netDelta
  by_cases same : event.mandateId = mandateId <;> simp [same]

/-- Events that move nothing of a mandate add nothing. -/
theorem netDelta_append_still
    {events recent : List LedgerEvent}
    {mandateId : Id}
    (still :
      ∀ event ∈ recent, event.mandateId = mandateId → event.delta = 0) :
    netDelta (events ++ recent) mandateId = netDelta events mandateId := by
  have nothing :
      ∀ change ∈
          (recent.filter fun event => event.mandateId = mandateId).map
            LedgerEvent.delta,
        change = 0 := by
    intro change member
    obtain ⟨event, inRecent, rfl⟩ := List.mem_map.mp member
    obtain ⟨inLog, ofMandate⟩ := List.mem_filter.mp inRecent
    exact still event inLog (of_decide_eq_true ofMandate)
  unfold netDelta
  rw [List.filter_append, List.map_append, List.sum_append,
    List.sum_eq_zero nothing, add_zero]

/-- One more event counts for its own kind and reservation. -/
theorem eventCount_append
    (events : List LedgerEvent)
    (event : LedgerEvent)
    (kind : EventKind)
    (reservationId : Id) :
    eventCount (events ++ [event]) kind reservationId =
      eventCount events kind reservationId +
        if event.kind = kind ∧ event.reservationId = some reservationId then
          1
        else
          0 := by
  unfold eventCount
  rw [List.countP_append]
  congr 1
  simp [List.countP_singleton]

/-- The net delta is what releases give back less what is taken. -/
theorem netDelta_eq_eventSums
    (events : List LedgerEvent)
    (mandateId : Id) :
    netDelta events mandateId =
      -eventSum events .reserve mandateId -
        eventSum events .escrow mandateId +
          eventSum events .release mandateId := by
  induction events with
  | nil =>
      rfl
  | cons event rest inductionHypothesis =>
      simp only [netDelta, eventSum] at inductionHypothesis ⊢
      by_cases same : event.mandateId = mandateId
      · cases isKind : event.kind <;>
          simp [same, isKind, LedgerEvent.delta, inductionHypothesis] <;>
            ring
      · simp [same, inductionHypothesis]

/-! ## Remaining cents -/

/-- The log gives the remaining cents of every mandate. -/
def Replayed (mandates : Table Mandate) (events : List LedgerEvent) : Prop :=
  ∀ row ∈ mandates.rows,
    row.remainingCents = row.spendLimitCents + netDelta events row.id

namespace Replayed

variable {mandates : Table Mandate} {events : List LedgerEvent}

/-- An event that moves no money may be appended. -/
theorem noted
    (replayed : Replayed mandates events)
    {event : LedgerEvent}
    (nothing : event.delta = 0) :
    Replayed mandates (events ++ [event]) := by
  intro row member
  rw [netDelta_append, nothing, ite_self, add_zero]
  exact replayed row member

/-- A mandate that moves by the delta of its event stays replayed. -/
theorem moved
    (replayed : Replayed mandates events)
    {old new : Mandate}
    {event : LedgerEvent}
    (found : mandates.find old.id = some old)
    (sameId : new.id = old.id)
    (sameLimit : new.spendLimitCents = old.spendLimitCents)
    (ofMandate : event.mandateId = old.id)
    (moves : new.remainingCents = old.remainingCents + event.delta) :
    Replayed (mandates.put new) (events ++ [event]) := by
  intro row member
  rw [netDelta_append, ofMandate]
  rcases Table.mem_put member with rfl | ⟨inOld, notNew⟩
  · rw [if_pos sameId.symm, moves, sameLimit, sameId,
      replayed old (Table.mem_of_find found)]
    ring
  · have different : old.id ≠ row.id := by
      rw [← sameId]
      exact Ne.symm notNew
    rw [if_neg different, add_zero]
    exact replayed row inOld

/-- A change of columns that are not amounts keeps the mandates replayed. -/
theorem flagged
    (replayed : Replayed mandates events)
    (mandateId : Id) :
    Replayed
      (mandates.modify mandateId fun row => { row with revoked := true })
      events := by
  unfold Table.modify
  cases found : mandates.find mandateId with
  | none => exact replayed
  | some old =>
      intro row member
      rcases Table.mem_put member with rfl | ⟨inOld, _⟩
      · exact replayed old (Table.mem_of_find found)
      · exact replayed row inOld

/-- A new mandate has its whole limit, and the log does not name it yet. -/
theorem issued
    (replayed : Replayed mandates events)
    {mandate : Mandate}
    {inserted : Table Mandate}
    (accepted : mandates.insert? mandate = some inserted)
    (full : mandate.remainingCents = mandate.spendLimitCents)
    (unnamed : netDelta events mandate.id = 0) :
    Replayed inserted events := by
  intro row member
  rcases (Table.mem_insert accepted).mp member with inOld | rfl
  · exact replayed row inOld
  · rw [full, unnamed, add_zero]

end Replayed

/-! ## Statuses -/

/-- One if the status is the given one. -/
def indicator (status expected : ReservationStatus) : Nat :=
  if status = expected then 1 else 0

/-- The log gives the status of every reservation. -/
def Counted
    (reservations : Table Reservation)
    (events : List LedgerEvent) :
    Prop :=
  ∀ row ∈ reservations.rows,
    eventCount events .reserve row.id = 1 ∧
      eventCount events .commit row.id = indicator row.status .committed ∧
      eventCount events .release row.id = indicator row.status .released

namespace Counted

variable {reservations : Table Reservation} {events : List LedgerEvent}

/-- An event of a kind that reservations do not have may be appended. -/
theorem noted
    (counted : Counted reservations events)
    {event : LedgerEvent}
    (isOther : event.kind = .deny ∨ event.kind = .escrow) :
    Counted reservations (events ++ [event]) := by
  intro row member
  rw [eventCount_append, eventCount_append, eventCount_append]
  rcases isOther with isKind | isKind <;>
    simpa [isKind] using counted row member

/-- A new reservation comes held and with its reserve event. -/
theorem reserved
    (counted : Counted reservations events)
    {reservation : Reservation}
    {inserted : Table Reservation}
    {event : LedgerEvent}
    (accepted : reservations.insert? reservation = some inserted)
    (held : reservation.status = .held)
    (isReserve : IsEventOf event .reserve reservation)
    (unnamed :
      ∀ kind, kind = .reserve ∨ kind = .commit ∨ kind = .release →
        eventCount events kind reservation.id = 0) :
    Counted inserted (events ++ [event]) := by
  intro row member
  rw [eventCount_append, eventCount_append, eventCount_append,
    isReserve.isKind, isReserve.ofReservation]
  rcases (Table.mem_insert accepted).mp member with inOld | rfl
  · have different : reservation.id ≠ row.id := by
      intro same
      have fresh : reservations.find row.id = none :=
        same ▸ (Table.insert?_eq_some accepted).1
      have found : reservations.find row.id = some row :=
        Table.find_of_mem inOld
      rw [fresh] at found
      cases found
    simpa [different] using counted row inOld
  · simp [unnamed, held, indicator]

/-- A held reservation moves with the event of its new status. -/
theorem moved
    (counted : Counted reservations events)
    {reservation : Reservation}
    {event : LedgerEvent}
    {status : ReservationStatus}
    {kind : EventKind}
    (found : reservations.find reservation.id = some reservation)
    (held : reservation.status = .held)
    (isEvent : IsEventOf event kind reservation)
    (matches_ :
      kind = .commit ∧ status = .committed ∨
        kind = .release ∧ status = .released) :
    Counted (reservations.put { reservation with status := status })
      (events ++ [event]) := by
  intro row member
  rw [eventCount_append, eventCount_append, eventCount_append,
    isEvent.isKind, isEvent.ofReservation]
  rcases Table.mem_put member with rfl | ⟨inOld, notNew⟩
  · obtain ⟨reserves, commits, releases⟩ :=
      counted reservation (Table.mem_of_find found)
    rw [held] at commits releases
    rcases matches_ with ⟨rfl, rfl⟩ | ⟨rfl, rfl⟩ <;>
      simp [reserves, commits, releases, indicator]
  · have different : reservation.id ≠ row.id := Ne.symm notNew
    simpa [different] using counted row inOld

end Counted

/-! ## The books and their log -/

/-- Events of the kinds that belong to a reservation. -/
def EventKind.ofReservation : EventKind → Bool
  | .reserve | .commit | .release => true
  | .deny | .escrow => false

/-- Mandates and reservations are never deleted. -/
structure Books.Grows (books books' : Books) : Prop where
  mandates : books.mandates.Extends (fun _ _ => True) books'.mandates
  reservations :
    books.reservations.Extends Reservation.SameHold books'.reservations

/-- A mandate that is stored stays stored. -/
theorem Books.Grows.mandate
    {books books' : Books}
    (grows : books.Grows books')
    {mandateId : Id}
    (stored : ∃ row, books.mandates.find mandateId = some row) :
    ∃ row, books'.mandates.find mandateId = some row := by
  obtain ⟨row, found⟩ := stored
  obtain ⟨row', found', _⟩ := grows.mandates _ _ found
  exact ⟨row', found'⟩

/-- A reservation that is stored stays stored, with its amount. -/
theorem Books.Grows.reservation
    {books books' : Books}
    (grows : books.Grows books')
    {reservationId : Id}
    {amountCents : Cents}
    (stored :
      ∃ row,
        books.reservations.find reservationId = some row ∧
          amountCents = row.amountCents) :
    ∃ row,
      books'.reservations.find reservationId = some row ∧
        amountCents = row.amountCents := by
  obtain ⟨row, found, sameAmount⟩ := stored
  obtain ⟨row', found', same⟩ := grows.reservations _ _ found
  refine ⟨row', found', ?_⟩
  rw [sameAmount, same]

/-- No step deletes a row. -/
theorem BookStep.grows
    {books books' : Books}
    (step : BookStep books books') :
    books.Grows books' := by
  have keeps {ρ : Type} (row : ρ) : (fun _ _ => True) row row := trivial
  have sameMandates : books.mandates.Extends (fun _ _ => True) books.mandates :=
    .refl keeps _
  have sameReservations :
      books.reservations.Extends Reservation.SameHold books.reservations :=
    .refl Reservation.SameHold.refl _
  cases step with
  | still => exact ⟨sameMandates, sameReservations⟩
  | denied => exact ⟨sameMandates, sameReservations⟩
  | flagged mandateId =>
      refine ⟨.modify keeps ?_ keeps mandateId, sameReservations⟩
      intro row
      rfl
  | issuedRoot inserted => exact ⟨.insert keeps inserted, sameReservations⟩
  | issuedChild inserted _ _ parentFound =>
      refine ⟨.trans (fun _ _ => trivial) (.insert keeps inserted) ?_,
        sameReservations⟩
      exact .put keeps (Table.find_insert_of_some inserted parentFound)
        trivial
  | debited found _ _ _ _ inserted =>
      exact ⟨.put keeps found trivial,
        .insert Reservation.SameHold.refl inserted⟩
  | settled found =>
      exact ⟨sameMandates, transitioned_extends found _⟩
  | refunded found =>
      refine ⟨.modify keeps ?_ keeps _, transitioned_extends found _⟩
      intro row
      rfl

namespace Books

/-- The books are what their log replays to. -/
structure Audited (books : Books) : Prop where
  replayed : Replayed books.mandates books.events
  counted : Counted books.reservations books.events
  mandateKnown :
    ∀ event ∈ books.events, event.kind ≠ .deny →
      ∃ row, books.mandates.find event.mandateId = some row
  reservationKnown :
    ∀ event ∈ books.events, event.kind.ofReservation = true →
      ∀ reservationId, event.reservationId = some reservationId →
        ∃ row,
          books.reservations.find reservationId = some row ∧
            event.amountCents = row.amountCents

namespace Audited

variable {books : Books}

/-- No event moves a mandate that does not exist yet. -/
theorem netDelta_fresh
    (audited : books.Audited)
    {mandateId : Id}
    (fresh : books.mandates.find mandateId = none) :
    netDelta books.events mandateId = 0 := by
  apply List.sum_eq_zero
  intro delta member
  obtain ⟨event, inFilter, rfl⟩ := List.mem_map.mp member
  obtain ⟨inLog, same⟩ := List.mem_filter.mp inFilter
  have isDeny : event.kind = .deny := by
    by_contra notDeny
    obtain ⟨row, found⟩ := audited.mandateKnown event inLog notDeny
    rw [of_decide_eq_true same, fresh] at found
    cases found
  simp [LedgerEvent.delta, isDeny]

/-- No event names a reservation that does not exist yet. -/
theorem eventCount_fresh
    (audited : books.Audited)
    {reservationId : Id}
    (fresh : books.reservations.find reservationId = none)
    {kind : EventKind}
    (isKind : kind.ofReservation = true) :
    eventCount books.events kind reservationId = 0 := by
  apply List.countP_eq_zero.mpr
  intro event inLog counts
  simp only [Bool.and_eq_true, decide_eq_true_eq] at counts
  obtain ⟨sameKind, same⟩ := counts
  obtain ⟨row, found, _⟩ :=
    audited.reservationKnown event inLog (sameKind ▸ isKind) reservationId
      same
  rw [fresh] at found
  cases found

/-- What the log knows stays known when the tables grow. -/
theorem grown
    (audited : books.Audited)
    {books' : Books}
    (grows : books.Grows books')
    (sameLog : books'.events = books.events)
    (replayed : Replayed books'.mandates books'.events)
    (counted : Counted books'.reservations books'.events) :
    books'.Audited where
  replayed := replayed
  counted := counted
  mandateKnown := by
    intro event inLog notDeny
    exact grows.mandate (audited.mandateKnown event (sameLog ▸ inLog) notDeny)
  reservationKnown := by
    intro event inLog isKind reservationId same
    exact grows.reservation
      (audited.reservationKnown event (sameLog ▸ inLog) isKind reservationId
        same)

/-- One more event is known when the rows it names are stored with it. -/
theorem logged
    (audited : books.Audited)
    {books' : Books}
    {event : LedgerEvent}
    (grows : books.Grows books')
    (appended : books'.events = books.events ++ [event])
    (mandateNamed :
      event.kind ≠ .deny →
        ∃ row, books'.mandates.find event.mandateId = some row)
    (reservationNamed :
      event.kind.ofReservation = true →
        ∀ reservationId, event.reservationId = some reservationId →
          ∃ row,
            books'.reservations.find reservationId = some row ∧
              event.amountCents = row.amountCents)
    (replayed : Replayed books'.mandates books'.events)
    (counted : Counted books'.reservations books'.events) :
    books'.Audited where
  replayed := replayed
  counted := counted
  mandateKnown := by
    intro logged inLog notDeny
    rw [appended] at inLog
    rcases List.mem_append.mp inLog with inOld | isNew
    · exact grows.mandate (audited.mandateKnown logged inOld notDeny)
    · cases List.mem_singleton.mp isNew
      exact mandateNamed notDeny
  reservationKnown := by
    intro logged inLog isKind reservationId same
    rw [appended] at inLog
    rcases List.mem_append.mp inLog with inOld | isNew
    · exact grows.reservation
        (audited.reservationKnown logged inOld isKind reservationId same)
    · cases List.mem_singleton.mp isNew
      exact reservationNamed isKind reservationId same

/-- The books stay what their log replays to. -/
theorem step
    {books' : Books}
    (audited : books.Audited)
    (balanced : books.Balanced)
    (step : BookStep books books') :
    books'.Audited := by
  have grows := step.grows
  cases step with
  | still => exact audited
  | @denied event isDeny =>
      refine audited.logged grows rfl ?_ ?_ ?_ ?_
      · intro notDeny
        exact (notDeny isDeny).elim
      · intro isKind
        simp [isDeny, EventKind.ofReservation] at isKind
      · exact audited.replayed.noted (by simp [LedgerEvent.delta, isDeny])
      · exact audited.counted.noted (.inl isDeny)
  | flagged mandateId =>
      exact audited.grown grows rfl (audited.replayed.flagged mandateId)
        audited.counted
  | @issuedRoot mandate mandates inserted full =>
      have unnamed := audited.netDelta_fresh (Table.insert?_eq_some inserted).1
      exact audited.grown grows rfl
        (audited.replayed.issued inserted full unnamed) audited.counted
  | @issuedChild mandate parent mandates event inserted full nonnegative
      parentFound link covered isEscrow =>
      obtain ⟨isKind, ofParent, sameAmount⟩ := isEscrow
      have unnamed := audited.netDelta_fresh (Table.insert?_eq_some inserted).1
      have stillFound : mandates.find parent.id = some parent :=
        Table.find_insert_of_some inserted parentFound
      refine audited.logged grows rfl ?_ ?_ ?_ ?_
      · intro _
        rw [ofParent]
        rw [Table.find_put, stillFound]
        exact ⟨_, if_pos rfl⟩
      · intro notThat
        simp [isKind, EventKind.ofReservation] at notThat
      · refine (audited.replayed.issued inserted full unnamed).moved
          stillFound rfl rfl ofParent ?_
        simp only [escrowed, LedgerEvent.delta, isKind, sameAmount]
        ring
      · exact audited.counted.noted (.inr isKind)
  | @debited old reservation reservations event found covered nonnegative
      ofMandate held inserted isReserve =>
      have fresh := (Table.insert?_eq_some inserted).1
      refine audited.logged grows rfl ?_ ?_ ?_ ?_
      · intro _
        rw [isReserve.sameMandate, ofMandate]
        exact grows.mandate ⟨old, found⟩
      · intro _ reservationId same
        rw [isReserve.ofReservation] at same
        cases same
        exact ⟨_, Table.find_of_mem
          ((Table.mem_insert inserted).mpr (.inr rfl)),
          isReserve.sameAmount⟩
      · refine audited.replayed.moved found rfl rfl
          (isReserve.sameMandate.trans ofMandate) ?_
        simp only [Crossing.debited, LedgerEvent.delta, isReserve.isKind,
          isReserve.sameAmount]
        ring
      · refine audited.counted.reserved inserted held isReserve ?_
        rintro kind (rfl | rfl | rfl) <;>
          exact audited.eventCount_fresh fresh rfl
  | @settled reservation event found held isCommit =>
      have member := Table.mem_of_find found
      refine audited.logged grows rfl ?_ ?_ ?_ ?_
      · intro _
        rw [isCommit.sameMandate]
        exact balanced.ofMandate reservation member
      · intro _ reservationId same
        rw [isCommit.ofReservation] at same
        cases same
        exact grows.reservation ⟨reservation, found, isCommit.sameAmount⟩
      · exact audited.replayed.noted
          (by simp [LedgerEvent.delta, isCommit.isKind])
      · exact audited.counted.moved found held isCommit (.inl ⟨rfl, rfl⟩)
  | @refunded reservation event found held isRelease =>
      obtain ⟨row, rowFound⟩ :=
        balanced.ofMandate reservation (Table.mem_of_find found)
      have isMandate : row.id = reservation.mandateId :=
        Table.key_of_find rowFound
      refine audited.logged grows rfl ?_ ?_ ?_ ?_
      · intro _
        rw [isRelease.sameMandate]
        exact grows.mandate ⟨row, rowFound⟩
      · intro _ reservationId same
        rw [isRelease.ofReservation] at same
        cases same
        exact grows.reservation ⟨reservation, found, isRelease.sameAmount⟩
      · have changed :
            refundedMandates books.mandates reservation =
              books.mandates.put (refunded reservation.amountCents row) :=
          Table.modify_of_find rowFound
        have stored : books.mandates.find row.id = some row :=
          isMandate ▸ rowFound
        rw [changed]
        refine audited.replayed.moved stored rfl rfl
          (isRelease.sameMandate.trans isMandate.symm) ?_
        simp only [Crossing.refunded, LedgerEvent.delta, isRelease.isKind,
          isRelease.sameAmount]
      · exact audited.counted.moved found held isRelease (.inr ⟨rfl, rfl⟩)

/-- The empty books replay to nothing. -/
theorem empty : Db.empty.books.Audited where
  replayed := by
    intro row member
    cases member
  counted := by
    intro row member
    cases member
  mandateKnown := by
    intro event inLog
    cases inLog
  reservationKnown := by
    intro event inLog
    cases inLog

end Audited

end Books

/-! ## Every run -/

/-- A step that logs a denial moves no money. -/
theorem BookStep.denials_still
    {books books' : Books}
    (step : BookStep books books') :
    ∃ recent,
      books'.events = books.events ++ recent ∧
        ∀ event ∈ recent, event.kind = .deny →
          books'.mandates = books.mandates ∧
            books'.reservations = books.reservations := by
  cases step with
  | still => exact ⟨[], by simp, by simp⟩
  | denied => exact ⟨[_], rfl, fun _ _ _ => ⟨rfl, rfl⟩⟩
  | flagged => exact ⟨[], by simp, by simp⟩
  | issuedRoot => exact ⟨[], by simp, by simp⟩
  | issuedChild _ _ _ _ _ _ isEscrow =>
      exact ⟨[_], rfl, by simp [isEscrow.1]⟩
  | debited _ _ _ _ _ _ isReserve =>
      exact ⟨[_], rfl, by simp [isReserve.isKind]⟩
  | settled _ _ isCommit =>
      exact ⟨[_], rfl, by simp [isCommit.isKind]⟩
  | refunded _ _ isRelease =>
      exact ⟨[_], rfl, by simp [isRelease.isKind]⟩

/-- A commit only adds events to the log. -/
theorem Effect.events_grow
    {env : Env}
    {discipline : Discipline}
    {origin : Origin}
    {entries : List Entry}
    {db db' : Db}
    (effect : Effect env discipline origin db entries db') :
    db.ledgerEvents <+: db'.ledgerEvents := by
  cases effect <;>
    first
    | exact List.prefix_refl _
    | exact List.prefix_append _ _

/-- A run only adds events to the log. -/
theorem later_events
    {env : Env}
    {allowed : Sys → Action → Prop}
    {s s' : Sys}
    (reachable : Reachable env allowed s)
    (later : Later env allowed s s') :
    s.db.ledgerEvents <+: s'.db.ledgerEvents := by
  refine Transition.later_invariant
    (fun s' => s.db.ledgerEvents <+: s'.db.ledgerEvents) ?_ reachable
    (List.prefix_refl _) later
  rintro s₁ s₂ isReachable grown ⟨action, _, taken⟩
  obtain ⟨_, _, effect⟩ :=
    (stepped (reachable_kept isReachable) (Discipline.free_allows action)
      taken).effect
  exact grown.trans effect.events_grow

/-- In every reachable state the books are what their log replays to. -/
theorem reachable_audited
    {env : Env}
    {allowed : Sys → Action → Prop}
    {s : Sys}
    (reachable : Reachable env allowed s) :
    s.db.books.Audited := by
  apply reachable_db_invariant .free (fun db => db.books.Audited) _ _ _
    reachable
  · intro s action _
    exact Discipline.free_allows action
  · exact .empty
  · intro s origin entries db' isReachable effect audited
    exact audited.step (reachable_balanced isReachable) effect.books

/--
The ledger replays to the balances and to the statuses of the reservations, and
a transaction that logs a denial moves no money.
-/
theorem ledger_replays
    {env : Env}
    {s : Sys}
    (reachable : Reachable env (fun _ _ => True) s) :
    (∀ mandate ∈ s.db.mandates.rows,
      mandate.remainingCents =
        mandate.spendLimitCents -
            eventSum s.db.ledgerEvents .reserve mandate.id -
          eventSum s.db.ledgerEvents .escrow mandate.id +
            eventSum s.db.ledgerEvents .release mandate.id) ∧
      (∀ reservation ∈ s.db.reservations.rows,
        eventCount s.db.ledgerEvents .reserve reservation.id = 1 ∧
          (reservation.status = .held ↔
            eventCount s.db.ledgerEvents .commit reservation.id = 0 ∧
              eventCount s.db.ledgerEvents .release reservation.id = 0) ∧
          (reservation.status = .committed ↔
            eventCount s.db.ledgerEvents .commit reservation.id = 1) ∧
          (reservation.status = .released ↔
            eventCount s.db.ledgerEvents .release reservation.id = 1)) ∧
      ∀ action s',
        step env s action = some s' →
        ∃ recent,
          s'.db.ledgerEvents = s.db.ledgerEvents ++ recent ∧
            ∀ event ∈ recent, event.kind = .deny →
              s'.db.mandates = s.db.mandates ∧
                s'.db.reservations = s.db.reservations := by
  have audited := reachable_audited reachable
  refine ⟨?_, ?_, ?_⟩
  · intro mandate member
    have replayed := audited.replayed mandate member
    rw [netDelta_eq_eventSums] at replayed
    rw [replayed]
    simp only [Db.books]
    ring
  · intro reservation member
    obtain ⟨reserves, commits, releases⟩ :=
      audited.counted reservation member
    simp only [Db.books] at reserves commits releases
    rw [reserves, commits, releases]
    cases reservation.status <;> simp [indicator]
  · intro action s' taken
    obtain ⟨_, _, effect⟩ :=
      (stepped (reachable_kept reachable)
        (Discipline.free_allows action) taken).effect
    exact effect.books.denials_still

/-- The ledger of a settled call. -/
theorem ledger_replays_example :
    ∃ s,
      Reachable .plain (fun _ _ => True) s ∧
        (∀ mandate ∈ s.db.mandates.rows,
          mandate.remainingCents =
            mandate.spendLimitCents -
                eventSum s.db.ledgerEvents .reserve mandate.id -
              eventSum s.db.ledgerEvents .escrow mandate.id +
                eventSum s.db.ledgerEvents .release mandate.id) ∧
        s.db.reservations.rows.length = 1 := by
  have checked :
      (run .plain Sys.start (deploy ++ settle)).any
          (fun s => s.db.reservations.rows.length = 1) =
        true := by
    decide
  obtain ⟨s, reachable, passes⟩ :=
    reachable_of_check (.of_forall (fun _ _ _ => trivial) _) checked
  exact ⟨s, reachable, (ledger_replays reachable).1,
    of_decide_eq_true passes⟩

end Crossing

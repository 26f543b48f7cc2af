import Crossing.InvokeOutcomes
import Crossing.NonceFrame
import Crossing.Runs

namespace Crossing

open Relational
open Relational.Transaction

/-!
# A nonce is used once

A nonce that is given is booked in the transaction that stores it with a
reservation or a mandate, and the booking fails when it is there already.  An
empty nonce counts as none and is not booked.
-/

/-! ## The uses of a nonce -/

/-- How many reservations and mandates of a principal carry a nonce. -/
def Db.authorized (db : Db) (principalId : Id) (nonce : String) : Nat :=
  db.reservations.countWhere
      (fun row => row.principalId = principalId && row.nonce = some nonce) +
    db.mandates.countWhere
      (fun row => row.principalId = principalId && row.nonce = nonce)

namespace NonceBook

/-- How often a nonce is stored for a principal. -/
def uses (book : NonceBook) (principalId : Id) (nonce : String) : Nat :=
  book.reserved.count (principalId, some nonce) +
    book.issued.count (principalId, nonce)

/-- A nonce of a principal is booked. -/
def IsBooked (book : NonceBook) (principalId : Id) (nonce : String) : Prop :=
  (book.booked.find (principalId, nonce)).isSome = true

/-- A nonce that is not empty is stored once at most, and booked if it is. -/
def SingleUse (book : NonceBook) : Prop :=
  ∀ principalId nonce, nonce ≠ "" →
    book.uses principalId nonce ≤ 1 ∧
      (book.uses principalId nonce ≠ 0 → book.IsBooked principalId nonce)

/-- Bookings stay, and what is stored once more is booked with that. -/
structure Next (before after : NonceBook) : Prop where
  grows :
    ∀ principalId nonce,
      before.IsBooked principalId nonce → after.IsBooked principalId nonce
  uses :
    ∀ principalId nonce, nonce ≠ "" →
      after.uses principalId nonce ≤ before.uses principalId nonce ∨
        ¬ before.IsBooked principalId nonce ∧
          after.IsBooked principalId nonce ∧
          after.uses principalId nonce ≤ before.uses principalId nonce + 1

/-- What is booked was free. -/
theorem free_of_insert
    {nonces booked : Table UsedNonce}
    {principalId : Id}
    {nonce : String}
    (inserted : booked.insert? ⟨principalId, nonce⟩ = some nonces) :
    booked.find (principalId, nonce) = none :=
  (Table.insert?_eq_some inserted).1

/-- What is booked is found. -/
theorem found_of_insert
    {nonces booked : Table UsedNonce}
    {principalId : Id}
    {nonce : String}
    (inserted : booked.insert? ⟨principalId, nonce⟩ = some nonces) :
    nonces.find (principalId, nonce) = some ⟨principalId, nonce⟩ :=
  (Table.find_insert inserted (principalId, nonce)).trans (if_pos rfl)

/-- Nothing has to happen. -/
theorem Next.refl (book : NonceBook) : book.Next book where
  grows _ _ isBooked := isBooked
  uses _ _ _ := .inl le_rfl

/-- Nothing is booked or stored but a nonce that was free, if at all. -/
theorem Next.of_reserved
    {before : NonceBook}
    {principalId : Id}
    {nonce : Option String}
    {nonces : Table UsedNonce}
    {marks : List (Id × Option String)}
    (given :
      ∀ text, truthy nonce = some text →
        before.booked.insert? ⟨principalId, text⟩ = some nonces)
    (none : truthy nonce = none → nonces = before.booked)
    (stored : marks.Sublist [(principalId, nonce)]) :
    before.Next
      { before with booked := nonces, reserved := before.reserved ++ marks }
    where
  grows otherId text isBooked := by
    cases isGiven : truthy nonce with
    | none =>
        rw [none isGiven]
        exact isBooked
    | some booked =>
        obtain ⟨row, found⟩ := Option.isSome_iff_exists.mp isBooked
        unfold IsBooked
        rw [Table.find_insert_of_some (given booked isGiven) found]
        rfl
  uses otherId text nonempty := by
    simp only [NonceBook.uses, List.count_append]
    by_cases isThis : (otherId, some text) = (principalId, nonce)
    · right
      cases isThis
      have isGiven := given text (truthy_some nonempty)
      have atMost : marks.count (principalId, some text) ≤ 1 :=
        (stored.count_le _).trans (by simp)
      refine ⟨?_, ?_, by omega⟩
      · unfold IsBooked
        rw [free_of_insert isGiven]
        simp
      · change (nonces.find (principalId, text)).isSome = true
        rw [found_of_insert isGiven]
        rfl
    · left
      have noMark : marks.count (otherId, some text) = 0 := by
        apply List.count_eq_zero_of_not_mem
        intro member
        exact isThis (List.mem_singleton.mp (stored.subset member))
      omega

/-- A nonce that was free is stored with a mandate. -/
theorem Next.of_issued
    {before : NonceBook}
    {principalId : Id}
    {nonce : String}
    {nonces : Table UsedNonce}
    (inserted :
      before.booked.insert? ⟨principalId, nonce⟩ = some nonces) :
    before.Next
      { before with
        booked := nonces
        issued := before.issued ++ [(principalId, nonce)] }
    where
  grows otherId text isBooked := by
    obtain ⟨row, found⟩ := Option.isSome_iff_exists.mp isBooked
    unfold IsBooked
    rw [Table.find_insert_of_some inserted found]
    rfl
  uses otherId text nonempty := by
    simp only [NonceBook.uses, List.count_append]
    by_cases isThis : (otherId, text) = (principalId, nonce)
    · right
      cases isThis
      refine ⟨?_, ?_, by simp; omega⟩
      · unfold IsBooked
        rw [free_of_insert inserted]
        simp
      · change (nonces.find (principalId, nonce)).isSome = true
        rw [found_of_insert inserted]
        rfl
    · left
      have noMark : [(principalId, nonce)].count (otherId, text) = 0 := by
        apply List.count_eq_zero_of_not_mem
        intro member
        exact isThis (List.mem_singleton.mp member)
      omega

/-- What counts as no nonce is stored. -/
theorem Next.of_stored
    {before : NonceBook}
    {nonce : Option String}
    (isNone : truthy nonce = none)
    (principalIds : List Id) :
    before.Next
      { before with
        reserved := before.reserved ++ principalIds.map (·, nonce) }
    where
  grows _ _ isBooked := isBooked
  uses otherId text nonempty := by
    left
    have noMark :
        (principalIds.map (·, nonce)).count (otherId, some text) = 0 := by
      apply List.count_eq_zero_of_not_mem
      intro member
      obtain ⟨_, _, same⟩ := List.mem_map.mp member
      rw [(Prod.mk.inj same).2, truthy_some nonempty] at isNone
      cases isNone
    simp only [NonceBook.uses, List.count_append]
    omega

/-- A single use stays one. -/
theorem SingleUse.next
    {before after : NonceBook}
    (single : before.SingleUse)
    (next : before.Next after) :
    after.SingleUse := by
  intro principalId nonce nonempty
  obtain ⟨atMost, isBooked⟩ := single principalId nonce nonempty
  rcases next.uses principalId nonce nonempty with
    fewer | ⟨wasFree, nowBooked, oneMore⟩
  · refine ⟨fewer.trans atMost, ?_⟩
    intro used
    exact next.grows principalId nonce (isBooked (by omega))
  · have unused : before.uses principalId nonce = 0 := by
      by_contra used
      exact wasFree (isBooked used)
    exact ⟨by omega, fun _ => nowBooked⟩

end NonceBook

/-- The uses of a nonce are the rows that carry it. -/
theorem Db.authorized_eq_uses (db : Db) (principalId : Id) (nonce : String) :
    db.authorized principalId nonce =
      db.nonceBook.uses principalId nonce := by
  unfold Db.authorized NonceBook.uses Db.nonceBook Table.countWhere
  simp only [List.count, List.countP_map, ← List.countP_eq_length_filter]
  apply congrArg₂ (· + ·)
  · apply List.countP_congr
    intro row _
    simp [Reservation.mark]
  · apply List.countP_congr
    intro row _
    simp [Mandate.mark]

/-! ## What books a nonce -/

/-- A debited mandate, and one more reservation. -/
theorem Db.nonceBook_reserved
    {db : Db}
    {row : Mandate}
    {amountCents : Cents}
    {reservation : Reservation}
    {reservations : Table Reservation}
    {invocations : Table Invocation}
    {claims : Table IdempotencyRecord}
    {events : List LedgerEvent}
    (found : db.mandates.find row.id = some row)
    (inserted : db.reservations.insert? reservation = some reservations) :
    ({ db with
        mandates := db.mandates.put (debited amountCents row)
        reservations := reservations
        invocations := invocations
        idempotencyRecords := claims
        ledgerEvents := events } : Db).nonceBook =
      { db.nonceBook with
        reserved := db.nonceBook.reserved ++ [reservation.mark] } := by
  have sameMarks :
      (db.mandates.put (debited amountCents row)).rows.map Mandate.mark =
        db.mandates.rows.map Mandate.mark :=
    Table.map_put found rfl
  have rows := (Table.insert?_eq_some inserted).2
  simp only [Db.nonceBook, sameMarks, rows, List.map_append,
    List.map_singleton]

section Bodies

variable
  {env : Env}
  {views : Views}
  {db db' : Db}

/-- A direct debit stores the nonce that it is given, and books none. -/
structure StoresNonce (nonce : Option String) (db db' : Db) : Prop where
  shape :
    ∃ principalIds : List Id,
      db'.nonceBook =
        { db.nonceBook with
          reserved :=
            db.nonceBook.reserved ++ principalIds.map (·, nonce) }

/-- A `reserve_and_commit` that returns stores its nonce with a reservation. -/
theorem AddedTogether.nonceBook
    {mandate : Mandate}
    {amountCents : Cents}
    {idempotencyKey nonce requestHash : Option String}
    {taskId : Option Id}
    {reservation : Reservation}
    {invocation : Invocation}
    (added :
      AddedTogether db mandate amountCents idempotencyKey nonce requestHash
        taskId reservation invocation db') :
    ∃ row,
      db.mandates.find mandate.id = some row ∧
        db'.nonceBook =
          { db.nonceBook with
            reserved :=
              db.nonceBook.reserved ++ [(row.principalId, nonce)] } := by
  obtain ⟨row, claims, reservations, invocations, found, samePrincipal, _, _,
    inserted, _, rfl⟩ := added.added
  obtain ⟨_, _, _, _, isNonce⟩ := added.isReservation
  refine ⟨row, found, ?_⟩
  have rowId : row.id = mandate.id := Table.key_of_find found
  have stored : db.mandates.find row.id = some row := by
    rw [rowId]
    exact found
  refine (Db.nonceBook_reserved stored inserted).trans ?_
  rw [Reservation.mark, samePrincipal, isNonce]

/-- A `reserve` that returns stores its nonce with a reservation. -/
theorem reserve_stores
    {now : Datetime}
    {mandate : Mandate}
    {amountCents : Cents}
    {idempotencyKey nonce : Option String}
    {taskId : Option Id}
    {recordDeny : Bool}
    {newId : Id}
    {entries : List Entry}
    (returned :
      exec
          (caught
            (silently
              (reserve now mandate amountCents idempotencyKey nonce taskId
                recordDeny newId)))
          db =
        (.ok entries, db')) :
    StoresNonce nonce db db' := by
  rcases caught_ok returned with finished | ⟨outcome, raised, rfl⟩
  · obtain ⟨⟨reservation, after⟩, reserveRun, rfl⟩ := map_ok finished
    by_cases negative : amountCents < 0
    · rw [reserve_negative negative] at reserveRun
      cases reserveRun
    have nonnegative : 0 ≤ amountCents := not_lt.mp negative
    by_cases debitable : Debitable db now mandate.id amountCents
    · obtain ⟨row, found, passes⟩ := debitable
      rw [reserve_debitable nonnegative found passes] at reserveRun
      split at reserveRun
      · cases reserveRun
      · next reservations inserted =>
          cases reserveRun
          have rowId : row.id = mandate.id := Table.key_of_find found
          have stored : db.mandates.find row.id = some row := by
            rw [rowId]
            exact found
          exact ⟨[row.principalId], Db.nonceBook_reserved stored inserted⟩
    · rw [reserve_refused nonnegative debitable] at reserveRun
      cases reserveRun
  · rcases reserve_denied (map_error raised) with
      ⟨_, _, denial⟩ | impossible
    · cases denial <;> exact ⟨[], by simp [Db.nonceBook]⟩
    · cases impossible

/-- A direct `reserve_and_commit` stores its nonce with a reservation. -/
theorem reserveAndCommit_stores
    {view : Db}
    {now : Datetime}
    {mandate : Mandate}
    {amountCents : Cents}
    {idempotencyKey nonce : Option String}
    {tool server : String}
    {requestHash : Option String}
    {taskId : Option Id}
    {reservationNewId invocationNewId : Id}
    {entries : List Entry}
    (returned :
      exec
          (caught
            ((fun opened : Reservation × Invocation × Mandate =>
                [.reserved opened.2.1.id]) <$>
              reserveAndCommit view now mandate amountCents idempotencyKey
                nonce tool server requestHash taskId reservationNewId
                invocationNewId))
          db =
        (.ok entries, db')) :
    StoresNonce nonce db db' := by
  rcases caught_ok returned with finished | ⟨outcome, raised, rfl⟩
  · obtain ⟨⟨reservation, invocation, after⟩, openRun, rfl⟩ :=
      map_ok finished
    obtain ⟨row, _, book⟩ := (reserveAndCommit_returned openRun).nonceBook
    exact ⟨[row.principalId], book⟩
  · obtain ⟨denials, _, rfl⟩ := reserveAndCommit_raised (map_error raised)
    exact ⟨[], by simp [Db.nonceBook]⟩

/-- `issue_mandate` books the nonce that it stores. -/
theorem issueMandate_books
    {now debitNow : Datetime}
    {args : IssueMandate}
    {newId : Id}
    {freshNonce : String}
    {mandate : Mandate}
    (returned :
      exec (issueMandate env views now debitNow args newId freshNonce) db =
        (.ok mandate, db')) :
    ∃ nonce nonces,
      db.usedNonces.insert? ⟨args.principalId, nonce⟩ = some nonces ∧
        db'.nonceBook =
          { db.nonceBook with
            booked := nonces
            issued := db.nonceBook.issued ++ [(args.principalId, nonce)] } := by
  obtain ⟨_, _, moneyRun, rest⟩ := bind_ok returned
  obtain ⟨_, rfl⟩ := ofExcept_ok moneyRun
  obtain ⟨_, _, agentRun, rest⟩ := bind_ok rest
  obtain ⟨_, rfl⟩ := ofExcept_ok agentRun
  obtain ⟨_, _, boundRun, rest⟩ := bind_ok rest
  obtain ⟨_, rfl⟩ := raiseWhen_ok boundRun
  obtain ⟨_, _, capsRun, rest⟩ := bind_ok rest
  obtain ⟨_, rfl⟩ := ofExcept_ok capsRun
  obtain ⟨parent, _, parentRun, rest⟩ := bind_ok rest
  obtain ⟨rfl, _⟩ := loadParent_ok parentRun
  obtain ⟨_, _, nonceRun, rest⟩ := bind_ok rest
  obtain ⟨_, rfl⟩ := raiseWhen_ok nonceRun
  obtain ⟨_, _, bookRun, rest⟩ := bind_ok rest
  obtain ⟨nonces, fresh, rfl⟩ := addRow_ok bookRun
  obtain ⟨⟨signature, pubkeyHex⟩, _, signRun, rest⟩ := bind_ok rest
  obtain ⟨_, rfl⟩ := ofExcept_ok signRun
  obtain ⟨_, _, verifyRun, rest⟩ := bind_ok rest
  obtain ⟨_, rfl⟩ := ofExcept_ok verifyRun
  obtain ⟨_, _, readRun, rest⟩ := bind_ok rest
  cases readRun
  obtain ⟨_, _, uniqueRun, rest⟩ := bind_ok rest
  obtain ⟨_, rfl⟩ := raiseWhen_ok uniqueRun
  obtain ⟨_, _, addRun, rest⟩ := bind_ok rest
  obtain ⟨mandates, inserted, rfl⟩ := addRow_ok addRun
  obtain ⟨_, _, escrowRun, answer⟩ := bind_ok rest
  cases answer
  have escrowed :=
    (Keeps.run leavesNonces_escrowWhenChild escrowRun trivial).1
  refine ⟨_, nonces, fresh, escrowed.trans ?_⟩
  have rows := (Table.insert?_eq_some inserted).2
  simp [Db.nonceBook, rows, Mandate.mark, issuedMandate]

/-- `invoke` books the nonce that it may store. -/
theorem invokeBegin_books
    {request : InvokeRequest}
    {draw : InvokeDraw}
    {begun : Begun}
    (seen : Seen views db)
    (returned :
      exec (invokeBegin env views request draw) db = (.ok begun, db')) :
    db'.nonceBook = db.nonceBook ∨
      ∃ principalId nonces marks,
        NonceAdded db principalId request.nonce nonces ∧
          marks.Sublist [(principalId, request.nonce)] ∧
          db'.nonceBook =
            { db.nonceBook with
              booked := nonces
              reserved := db.nonceBook.reserved ++ marks } := by
  rw [invokeBegin_eq] at returned
  cases gated : gate env views request draw with
  | denied =>
      rw [gated] at returned
      obtain ⟨_, denyRun, _⟩ := map_ok returned
      exact .inl (Keeps.run leavesNonces_deny denyRun trivial).1
  | waits =>
      rw [gated] at returned
      cases returned
      exact .inl rfl
  | cached =>
      rw [gated] at returned
      cases returned
      exact .inl rfl
  | passes mandate price =>
      right
      rw [gated] at returned
      obtain ⟨row, stored, same⟩ := (gate_passes_iff.mp gated).stored seen
      obtain ⟨taskId, booked, books, reserveRun⟩ :=
        bookAndReserve_iff.mp returned
      obtain ⟨nonces, tasks, nonceAdded, _, rfl⟩ := books.shape
      refine ⟨mandate.principalId, nonces, ?_⟩
      rcases reserveOrAnswer_cases reserveRun with
        ⟨exception, raised⟩ | ⟨reservation, invocation, debitedRow, opened⟩
      · obtain ⟨denials, _, rfl⟩ := reserveAndCommit_raised raised
        exact ⟨[], nonceAdded, by simp, by simp [Db.nonceBook]⟩
      · rw [reserveOrAnswer_opened opened] at reserveRun
        cases reserveRun
        obtain ⟨row', found, book⟩ :=
          (reserveAndCommit_returned opened).nonceBook
        cases stored.symm.trans found
        have samePrincipal : row.principalId = mandate.principalId := by
          rw [same.1]
        rw [samePrincipal] at book
        exact ⟨_, nonceAdded, List.Sublist.refl _, book⟩

end Bodies

/-! ## Steps and runs -/

/-- Nonces come in by `invoke` and `issue_mandate`, not by a direct debit. -/
def Action.NoncesByInvoke : Action → Prop
  | .txn _ (.reserve _ _ _ _ nonce _ _ _) => truthy nonce = none
  | .txn _ (.reserveAndCommit _ _ _ _ nonce _ _ _ _ _ _) =>
      truthy nonce = none
  | _ => True

/-- What a step does to the book. -/
inductive NonceBook.Change (action : Action) (before : NonceBook) :
    NonceBook → Prop where
  | still : Change action before before
  | reserved
      {principalId : Id}
      {nonce : Option String}
      {nonces : Table UsedNonce}
      {marks : List (Id × Option String)}
      (given :
        ∀ text, truthy nonce = some text →
          before.booked.insert? ⟨principalId, text⟩ = some nonces)
      (none : truthy nonce = none → nonces = before.booked)
      (stored : marks.Sublist [(principalId, nonce)]) :
      Change action before
        { before with booked := nonces, reserved := before.reserved ++ marks }
  | issued
      {principalId : Id}
      {nonce : String}
      {nonces : Table UsedNonce}
      (inserted :
        before.booked.insert? ⟨principalId, nonce⟩ = some nonces) :
      Change action before
        { before with
          booked := nonces
          issued := before.issued ++ [(principalId, nonce)] }
  | direct
      {nonce : Option String}
      (principalIds : List Id)
      (isNone : action.NoncesByInvoke → truthy nonce = none) :
      Change action before
        { before with
          reserved := before.reserved ++ principalIds.map (·, nonce) }

namespace NonceBook.Change

variable
  {action : Action}
  {before after : NonceBook}

/-- An allowed change books what it stores. -/
theorem next
    (change : Change action before after)
    (allowed : action.NoncesByInvoke) :
    before.Next after := by
  cases change with
  | still => exact .refl before
  | reserved given none stored => exact .of_reserved given none stored
  | issued inserted => exact .of_issued inserted
  | direct principalIds isNone => exact .of_stored (isNone allowed) principalIds

/-- Bookings stay in every change. -/
theorem booked
    {principalId : Id}
    {nonce : String}
    (change : Change action before after)
    (isBooked : before.IsBooked principalId nonce) :
    after.IsBooked principalId nonce := by
  cases change with
  | still => exact isBooked
  | reserved given none stored =>
      exact (Next.of_reserved given none stored).grows _ _ isBooked
  | issued inserted => exact (Next.of_issued inserted).grows _ _ isBooked
  | direct => exact isBooked

end NonceBook.Change

section Runs

variable
  {env : Env}
  {s s' : Sys}
  {action : Action}

/-- Every step changes the book in one of these ways. -/
theorem step_change
    (kept : s.Kept env)
    (taken : step env s action = some s') :
    NonceBook.Change action s.db.nonceBook s'.db.nonceBook := by
  cases step_nonces taken with
  | leaves same =>
      rw [same]
      exact .still
  | invokes returned =>
      rcases invokeBegin_books (kept.seen _) returned with
        same | ⟨principalId, nonces, marks, added, stored, book⟩
      · rw [same]
        exact .still
      · rw [book]
        exact .reserved added.given added.none stored
  | @takes ages txn entries db' takesNonce _ returned =>
      cases txn with
      | issueMandate =>
          obtain ⟨_, issueRun, _⟩ := map_ok returned
          obtain ⟨nonce, nonces, inserted, book⟩ := issueMandate_books issueRun
          rw [book]
          exact .issued inserted
      | reserve =>
          obtain ⟨principalIds, book⟩ := (reserve_stores returned).shape
          rw [book]
          exact .direct principalIds id
      | reserveAndCommit =>
          obtain ⟨principalIds, book⟩ :=
            (reserveAndCommit_stores returned).shape
          rw [book]
          exact .direct principalIds id
      | _ => cases takesNonce

/-- Bookings stay in every step. -/
theorem step_booked
    {principalId : Id}
    {nonce : String}
    (kept : s.Kept env)
    (taken : step env s action = some s')
    (isBooked : s.db.nonceBook.IsBooked principalId nonce) :
    s'.db.nonceBook.IsBooked principalId nonce :=
  (step_change kept taken).booked isBooked

/-- In every reachable state a nonce that is not empty is used once. -/
theorem reachable_singleUse
    (reachable :
      Reachable env (fun _ action => action.NoncesByInvoke) s) :
    s.db.nonceBook.SingleUse := by
  suffices single : (fun s : Sys => s.db.nonceBook.SingleUse) s from single
  apply Transition.Reachable.invariant _ _ reachable
  · rintro _ rfl principalId nonce _
    have unused : Sys.start.db.nonceBook.uses principalId nonce = 0 := rfl
    exact ⟨by omega, fun used => absurd unused used⟩
  · rintro s s' isReachable single ⟨action, isAllowed, taken⟩
    have change := step_change (reachable_kept isReachable) taken
    exact single.next (change.next isAllowed)

end Runs

/-! ## At most one use -/

/--
In every reachable state at most one reservation or mandate of a principal
carries a nonce that is not empty.
-/
theorem nonce_authorizes_at_most_one
    {env : Env}
    {s : Sys}
    {principalId : Id}
    {nonce : String}
    (nonempty : nonce ≠ "")
    (reachable :
      Reachable env (fun _ action => action.NoncesByInvoke) s) :
    s.db.authorized principalId nonce ≤ 1 := by
  rw [Db.authorized_eq_uses]
  exact (reachable_singleUse reachable principalId nonce nonempty).1

/-- A call that carries a nonce. -/
def callWith (nonce : String) : InvokeRequest :=
  { call with idempotencyKey := none, nonce := some nonce }

/-- Two calls with a nonce, one after the other. -/
def callTwice (nonce : String) : List Action :=
  deploy ++
    [.invoke [] (callWith nonce) (drawTen 1),
      .invoke [] (callWith nonce) (drawTen 2)]

/-- The two calls are permitted. -/
theorem permitted_callTwice (nonce : String) :
    Permitted .plain (fun _ action => action.NoncesByInvoke) Sys.start
      (callTwice nonce) := by
  apply Permitted.of_forall
  intro action member _
  simp only [callTwice, deploy, List.cons_append, List.nil_append,
    List.mem_cons, List.not_mem_nil, or_false] at member
  rcases member with rfl | rfl | rfl | rfl | rfl <;> trivial

/-- The second of two calls with a nonce reserves nothing. -/
theorem nonce_authorizes_one :
    ∃ s,
      Reachable .plain (fun _ action => action.NoncesByInvoke) s ∧
        1 ≤ s.db.authorized 1 "n" ∧ s.db.authorized 1 "n" ≤ 1 := by
  have checked :
      (run .plain Sys.start (callTwice "n")).any
          (fun s => decide (1 ≤ s.db.authorized 1 "n")) =
        true := by
    decide
  obtain ⟨s, reachable, used⟩ :=
    reachable_of_check (permitted_callTwice "n") checked
  exact ⟨s, reachable, of_decide_eq_true used,
    nonce_authorizes_at_most_one (by decide) reachable⟩

/-- An empty nonce counts as none, and is stored with both of two calls. -/
theorem empty_nonce_authorizes_two :
    ∃ s,
      Reachable .plain (fun _ action => action.NoncesByInvoke) s ∧
        ¬ s.db.authorized 1 "" ≤ 1 := by
  have checked :
      (run .plain Sys.start (callTwice "")).any
          (fun s => decide (¬ s.db.authorized 1 "" ≤ 1)) =
        true := by
    decide
  obtain ⟨s, reachable, twice⟩ :=
    reachable_of_check (permitted_callTwice "") checked
  exact ⟨s, reachable, of_decide_eq_true twice⟩

end Crossing

import Crossing.Conservation
import Crossing.Tenancy

namespace Crossing

open Relational

/-!
# Counting calls

`calls_used` counts the live reservations of one mandate: the debit adds one
below `max_calls`, and a release takes one back.  Calls are not escrowed like
money, so the calls of a child count against the child alone.
-/

namespace Books

/-- The number of live reservations of a mandate. -/
def liveCalls (books : Books) (mandateId : Id) : Nat :=
  books.reservations.countWhere
    (fun row => row.mandateId = mandateId && row.isLive)

open scoped Classical in
/-- The number of live reservations in the subtree of a mandate. -/
noncomputable def subtreeCalls (books : Books) (root : Id) : Nat :=
  books.reservations.countWhere
    (fun row =>
      decide
          (Delegation.SelfOrAncestor books.parentOf row.mandateId root) &&
        row.isLive)

/-- Every mandate has used as many calls as it has live reservations. -/
structure Counted (books : Books) : Prop where
  counted :
    ∀ row ∈ books.mandates.rows, row.callsUsed = books.liveCalls row.id
  bounded :
    ∀ row ∈ books.mandates.rows, ∀ maxCalls ∈ row.maxCalls,
      0 ≤ maxCalls → row.callsUsed ≤ maxCalls

variable {books : Books}

/-! ## How the count moves -/

/-- A reservation with the same share keeps the counts. -/
theorem liveCalls_put
    {old new : Reservation}
    (found : books.reservations.find new.id = some old)
    (sameMandate : new.mandateId = old.mandateId)
    (sameLive : new.isLive = old.isLive)
    (mandates : Table Mandate)
    (events : List LedgerEvent)
    (mandateId : Id) :
    (Books.mk mandates (books.reservations.put new) events).liveCalls
        mandateId =
      books.liveCalls mandateId := by
  have exchange :=
    Table.sumWhere_put found
      (fun row => row.mandateId = mandateId && row.isLive)
      (fun _ => 1)
  simp only [Table.share, sameMandate, sameLive] at exchange
  unfold liveCalls
  rw [Table.countWhere_eq_sumWhere, Table.countWhere_eq_sumWhere]
  exact Nat.add_right_cancel exchange

/-- A reservation that is no longer live leaves the count of its mandate. -/
theorem liveCalls_released
    {reservation : Reservation}
    (found : books.reservations.find reservation.id = some reservation)
    (held : reservation.status = .held)
    (mandates : Table Mandate)
    (events : List LedgerEvent)
    (mandateId : Id) :
    (Books.mk mandates
          (books.reservations.put { reservation with status := .released })
          events).liveCalls mandateId +
        (if mandateId = reservation.mandateId then 1 else 0) =
      books.liveCalls mandateId := by
  have stillFound :
      books.reservations.find
          (Keyed.key
            ({ reservation with status := .released } : Reservation)) =
        some reservation :=
    found
  have exchange :=
    Table.sumWhere_put stillFound
      (fun row => row.mandateId = mandateId && row.isLive)
      (fun _ => 1)
  simp only [Table.share, Reservation.isLive, held] at exchange
  unfold liveCalls
  rw [Table.countWhere_eq_sumWhere, Table.countWhere_eq_sumWhere]
  by_cases isMandate : mandateId = reservation.mandateId
  · subst isMandate
    simpa [Reservation.isLive] using exchange
  · simpa [isMandate, Ne.symm isMandate, Reservation.isLive] using exchange

/-- A new held reservation joins the count of its mandate. -/
theorem liveCalls_insert
    {reservation : Reservation}
    {reservations : Table Reservation}
    (inserted : books.reservations.insert? reservation = some reservations)
    (held : reservation.status = .held)
    (mandates : Table Mandate)
    (events : List LedgerEvent)
    (mandateId : Id) :
    (Books.mk mandates reservations events).liveCalls mandateId =
      books.liveCalls mandateId +
        (if mandateId = reservation.mandateId then 1 else 0) := by
  unfold liveCalls
  rw [Table.countWhere_eq_sumWhere, Table.countWhere_eq_sumWhere,
    Table.sumWhere_insert inserted]
  by_cases isMandate : mandateId = reservation.mandateId
  · subst isMandate
    simp [Table.share, Reservation.isLive, held]
  · simp [Table.share, isMandate, Ne.symm isMandate]

/-- A mandate that does not exist yet has no live reservation. -/
theorem liveCalls_fresh
    (balanced : books.Balanced)
    {mandateId : Id}
    (fresh : books.mandates.find mandateId = none) :
    books.liveCalls mandateId = 0 := by
  refine (Table.countWhere_eq_zero_iff _ _).mpr ?_
  intro row member
  have different : row.mandateId ≠ mandateId := by
    intro same
    obtain ⟨mandate, found⟩ := balanced.ofMandate row member
    rw [same, fresh] at found
    cases found
  simp [different]

/-! ## What a step keeps -/

/-- A mandate whose count moves with its live reservations stays counted. -/
theorem Counted.recounted
    (counted : books.Counted)
    {old new : Mandate}
    {reservations : Table Reservation}
    {events : List LedgerEvent}
    (found : books.mandates.find new.id = some old)
    (others :
      ∀ mandateId, mandateId ≠ new.id →
        (Books.mk books.mandates reservations events).liveCalls mandateId =
          books.liveCalls mandateId)
    (moved :
      new.callsUsed =
        (Books.mk books.mandates reservations events).liveCalls new.id)
    (bounded :
      ∀ maxCalls ∈ new.maxCalls, 0 ≤ maxCalls → new.callsUsed ≤ maxCalls) :
    (Books.mk (books.mandates.put new) reservations events).Counted where
  counted := by
    intro row member
    rcases Table.mem_put member with rfl | ⟨inOld, different⟩
    · exact moved
    · rw [counted.counted row inOld]
      exact congrArg Nat.cast (others row.id different).symm
  bounded := by
    intro row member
    rcases Table.mem_put member with rfl | ⟨inOld, _⟩
    · exact bounded
    · exact counted.bounded row inOld

/-- A mandate that keeps its count stays counted. -/
theorem Counted.rewritten
    (counted : books.Counted)
    {old new : Mandate}
    {events : List LedgerEvent}
    (found : books.mandates.find new.id = some old)
    (sameUsed : new.callsUsed = old.callsUsed)
    (sameMax : new.maxCalls = old.maxCalls) :
    (Books.mk (books.mandates.put new) books.reservations events).Counted := by
  have member := Table.mem_of_find found
  have oldId : old.id = new.id := Table.key_of_find found
  apply counted.recounted found
  · intro mandateId _
    rfl
  · rw [sameUsed, counted.counted old member, oldId]
    rfl
  · intro maxCalls isMax
    rw [sameUsed]
    exact counted.bounded old member maxCalls (sameMax ▸ isMax)

/-- A mandate without calls joins the counted ones. -/
theorem Counted.issued
    (counted : books.Counted)
    (balanced : books.Balanced)
    {mandate : Mandate}
    {mandates : Table Mandate}
    (inserted : books.mandates.insert? mandate = some mandates)
    (unused : mandate.callsUsed = 0) :
    (Books.mk mandates books.reservations books.events).Counted where
  counted := by
    intro row member
    rcases (Table.mem_insert inserted).mp member with inOld | rfl
    · exact counted.counted row inOld
    · have none := liveCalls_fresh balanced
        (Table.insert?_eq_some inserted).1
      rw [unused]
      exact congrArg Nat.cast none.symm
  bounded := by
    intro row member maxCalls isMax nonnegative
    rcases (Table.mem_insert inserted).mp member with inOld | rfl
    · exact counted.bounded row inOld maxCalls isMax nonnegative
    · rw [unused]
      exact nonnegative

/-- A step of the books keeps the mandates counted. -/
theorem Counted.step
    {books' : Books}
    (counted : books.Counted)
    (balanced : books.Balanced)
    (step : BookStep books books') :
    books'.Counted := by
  cases step with
  | still => exact counted
  | denied =>
      exact { counted := counted.counted, bounded := counted.bounded }
  | flagged mandateId =>
      unfold Table.modify
      cases found : books.mandates.find mandateId with
      | none => exact counted
      | some row =>
          have stored : books.mandates.find row.id = some row :=
            Table.find_of_mem (Table.mem_of_find found)
          have stillFound :
              books.mandates.find ({ row with revoked := true } : Mandate).id =
                some row :=
            stored
          exact counted.rewritten stillFound rfl rfl
  | issuedRoot inserted _ _ _ unused =>
      exact counted.issued balanced inserted unused
  | @issuedChild mandate parent mandates event inserted _ _ parentFound _ _ _
      unused =>
      have issued := counted.issued balanced inserted unused
      have stillFound :
          mandates.find (escrowed mandate.spendLimitCents parent).id =
            some parent :=
        Table.find_insert_of_some inserted parentFound
      exact issued.rewritten stillFound rfl rfl
  | @debited old reservation reservations event found _ _ ofMandate held
      inserted _ belowMax =>
      have joined := liveCalls_insert inserted held books.mandates
        (books.events ++ [event])
      have stillFound :
          books.mandates.find (Crossing.debited reservation.amountCents old).id =
            some old :=
        found
      apply counted.recounted stillFound
      · intro mandateId different
        have notOld : mandateId ≠ old.id := different
        rw [joined, ofMandate, if_neg notOld, Nat.add_zero]
      · have used := counted.counted old (Table.mem_of_find found)
        rw [joined, ofMandate]
        simp [Crossing.debited, used]
      · intro maxCalls isMax _
        exact belowMax maxCalls isMax
  | @settled reservation event found held =>
      have stillFound :
          books.reservations.find
              ({ reservation with status := .committed } : Reservation).id =
            some reservation :=
        found
      have same := liveCalls_put stillFound rfl
        (by simp [Reservation.isLive, held]) books.mandates
        (books.events ++ [event])
      refine { counted := ?_, bounded := counted.bounded }
      intro row member
      rw [counted.counted row member]
      exact congrArg Nat.cast (same row.id).symm
  | @refunded reservation event found held =>
      obtain ⟨row, rowFound⟩ :=
        balanced.ofMandate reservation (Table.mem_of_find found)
      have isMandate : row.id = reservation.mandateId :=
        Table.key_of_find rowFound
      have stored : books.mandates.find row.id = some row :=
        isMandate ▸ rowFound
      have member := Table.mem_of_find rowFound
      have left := liveCalls_released found held books.mandates
        (books.events ++ [event])
      rw [refundedMandates, Table.modify_of_find rowFound]
      -- The reservation was live, so the mandate had used a call.
      have used := counted.counted row member
      have one := left row.id
      rw [if_pos isMandate] at one
      have positive : 0 < row.callsUsed := by omega
      have stillFound :
          books.mandates.find
              (Crossing.refunded reservation.amountCents row).id =
            some row :=
        stored
      apply counted.recounted stillFound
      · intro mandateId different
        have unmoved := left mandateId
        rw [if_neg (isMandate ▸ different), Nat.add_zero] at unmoved
        exact unmoved
      · simp only [Crossing.refunded, positive, ↓reduceIte]
        omega
      · intro maxCalls isMax nonnegative
        have bound := counted.bounded row member maxCalls isMax nonnegative
        simp only [Crossing.refunded, positive, ↓reduceIte]
        omega

/-- No mandate has used more calls than it may, where a negative cap is none. -/
def Capped (books : Books) : Prop :=
  ∀ row ∈ books.mandates.rows, ∀ maxCalls ∈ row.maxCalls,
    row.callsUsed ≤ max 0 maxCalls

/-- A rewritten mandate that stays below its cap. -/
theorem Capped.rewritten
    (capped : books.Capped)
    {new : Mandate}
    {reservations : Table Reservation}
    {events : List LedgerEvent}
    (stays :
      ∀ maxCalls ∈ new.maxCalls, new.callsUsed ≤ max 0 maxCalls) :
    (Books.mk (books.mandates.put new) reservations events).Capped := by
  intro row member
  rcases Table.mem_put member with rfl | ⟨inOld, _⟩
  · exact stays
  · exact capped row inOld

/-- Mandates that are modified within their caps. -/
theorem Capped.modified
    (capped : books.Capped)
    {change : Mandate → Mandate}
    {reservations : Table Reservation}
    {events : List LedgerEvent}
    (sameMax : ∀ row, (change row).maxCalls = row.maxCalls)
    (fewer : ∀ row, (change row).callsUsed ≤ max 0 row.callsUsed)
    (mandateId : Id) :
    (Books.mk (books.mandates.modify mandateId change) reservations
      events).Capped := by
  intro row member maxCalls isMax
  rcases Table.mem_modify member with inOld | ⟨old, inOld, rfl⟩
  · exact capped row inOld maxCalls isMax
  · have bound := capped old inOld maxCalls (sameMax old ▸ isMax)
    have used := fewer old
    omega

/-- A step of the books keeps the mandates below their caps. -/
theorem Capped.step
    {books' : Books}
    (capped : books.Capped)
    (step : BookStep books books') :
    books'.Capped := by
  have issued {mandate : Mandate} {mandates : Table Mandate}
      (inserted : books.mandates.insert? mandate = some mandates)
      (unused : mandate.callsUsed = 0) :
      (Books.mk mandates books.reservations books.events).Capped := by
    intro row member maxCalls isMax
    rcases (Table.mem_insert inserted).mp member with inOld | rfl
    · exact capped row inOld maxCalls isMax
    · rw [unused]
      exact le_max_left 0 maxCalls
  cases step with
  | still => exact capped
  | denied => exact capped
  | settled => exact capped
  | flagged mandateId =>
      apply capped.modified
      · intro row
        rfl
      · intro row
        exact le_max_right 0 row.callsUsed
  | issuedRoot inserted _ _ _ unused => exact issued inserted unused
  | @issuedChild mandate parent mandates event inserted _ _ parentFound _ _ _
      unused =>
      have withChild := issued inserted unused
      exact withChild.rewritten
        (withChild parent (Table.mem_of_find
          (Table.find_insert_of_some inserted parentFound)))
  | @debited old reservation reservations event _ _ _ _ _ _ _ belowMax =>
      apply capped.rewritten
      intro maxCalls isMax
      have below := belowMax maxCalls isMax
      simp only [Crossing.debited]
      omega
  | refunded =>
      apply capped.modified
      · intro row
        rfl
      · intro row
        simp only [Crossing.refunded]
        split <;> omega

end Books

/-! ## Every run -/

/-- In every reachable state the mandates are counted. -/
theorem reachable_counted
    {env : Env}
    {allowed : Sys → Action → Prop}
    {s : Sys}
    (reachable : Reachable env allowed s) :
    s.db.books.Counted := by
  apply reachable_db_invariant .free (fun db => db.books.Counted) _ _ _
    reachable
  · intro s action _
    exact Discipline.free_allows action
  · constructor
    · intro row member
      cases member
    · intro row member
      cases member
  · intro s origin entries db' isReachable effect counted
    exact counted.step (reachable_balanced isReachable) effect.books

/-- In every reachable state the mandates are below their caps. -/
theorem reachable_capped
    {env : Env}
    {allowed : Sys → Action → Prop}
    {s : Sys}
    (reachable : Reachable env allowed s) :
    s.db.books.Capped := by
  apply reachable_db_invariant .free (fun db => db.books.Capped) _ _ _
    reachable
  · intro s action _
    exact Discipline.free_allows action
  · intro row member
    cases member
  · intro s origin entries db' _ effect capped
    exact capped.step effect.books

/--
`max_calls` bounds the calls under its own mandate: no more of its reservations
are held or committed.
-/
theorem max_calls_bounds_its_mandate
    {env : Env}
    {s : Sys}
    {mandate : Mandate}
    {maxCalls : Int}
    (reachable : Reachable env (fun _ _ => True) s)
    (member : mandate ∈ s.db.mandates.rows)
    (isMax : mandate.maxCalls = some maxCalls)
    (nonnegative : 0 ≤ maxCalls) :
    s.db.books.liveCalls mandate.id ≤ maxCalls := by
  have counted := reachable_counted reachable
  rw [← counted.counted mandate member]
  exact counted.bounded mandate member maxCalls isMax nonnegative

/-- A mandate of one call whose child has two calls open. -/
def twoCallsBelowOne : List Action :=
  [.txn [] (.createPrincipal none none 1 1),
    .txn [] (.createAgent 1 none 1),
    .txn []
      (.issueMandate noon noon
        { principalId := 1
          agentId := 1
          spendLimitCents := 100
          maxCalls := some 1 }
        1 "n1"),
    .txn []
      (.issueMandate noon noon
        { principalId := 1
          agentId := 1
          spendLimitCents := 40
          parentMandateId := some 1 }
        2 "n2"),
    .invoke [] { call with mandateId := 2, idempotencyKey := some "a" }
      (drawTen 1),
    .invoke [] { call with mandateId := 2, idempotencyKey := some "b" }
      (drawTen 2)]

/-- The state the two calls lead to. -/
theorem two_calls_below_one :
    ∃ s mandate,
      Reachable .plain (fun _ _ => True) s ∧
        s.db.mandates.find 1 = some mandate ∧
        mandate.maxCalls = some 1 ∧
        s.db.books.parentOf 2 = some 1 ∧
        (∀ row ∈ s.db.reservations.rows, row.mandateId = 2) ∧
        s.db.reservations.countWhere Reservation.isLive = 2 := by
  have checked :
      (run .plain Sys.start twoCallsBelowOne).any
          (fun s =>
            (s.db.mandates.find 1).any (·.maxCalls = some 1) &&
              s.db.books.parentOf 2 = some 1 &&
              s.db.reservations.rows.all (·.mandateId = 2) &&
              s.db.reservations.countWhere Reservation.isLive = 2) =
        true := by
    decide
  obtain ⟨s, reachable, passes⟩ :=
    reachable_of_check (.of_forall (fun _ _ _ => trivial) _) checked
  simp only [Bool.and_eq_true, Option.any_eq_true, decide_eq_true_eq,
    List.all_eq_true] at passes
  obtain ⟨⟨⟨⟨mandate, found, isMax⟩, link⟩, ofChild⟩, two⟩ := passes
  exact ⟨s, mandate, reachable, found, isMax, link, ofChild, two⟩

/-- The bound for the mandate whose child is calling. -/
theorem max_calls_bounds_its_mandate_example :
    ∃ s mandate,
      Reachable .plain (fun _ _ => True) s ∧
        mandate ∈ s.db.mandates.rows ∧
        mandate.maxCalls = some 1 ∧
        s.db.books.liveCalls mandate.id ≤ 1 := by
  obtain ⟨s, mandate, reachable, found, isMax, _⟩ := two_calls_below_one
  have member := Table.mem_of_find found
  have bound :=
    max_calls_bounds_its_mandate reachable member isMax (by decide)
  exact ⟨s, mandate, reachable, member, isMax, by exact_mod_cast bound⟩

/-- Two calls are live in the subtree of a mandate of one call. -/
theorem subtree_exceeds_max_calls :
    ∃ s mandate maxCalls,
      Reachable .plain (fun _ _ => True) s ∧
        mandate ∈ s.db.mandates.rows ∧
        mandate.maxCalls = some maxCalls ∧
        0 ≤ maxCalls ∧
        maxCalls < s.db.books.subtreeCalls mandate.id := by
  obtain ⟨s, mandate, reachable, found, isMax, link, ofChild, two⟩ :=
    two_calls_below_one
  have mandateId : mandate.id = 1 := Table.key_of_find found
  refine ⟨s, mandate, 1, reachable, Table.mem_of_find found, isMax,
    by decide, ?_⟩
  have all : s.db.books.subtreeCalls mandate.id = 2 := by
    rw [← two, mandateId]
    apply Table.countWhere_congr
    intro row member
    have below :
        Delegation.SelfOrAncestor s.db.books.parentOf row.mandateId 1 := by
      rw [ofChild row member]
      exact .step link (.refl _ 1)
    simp [below]
  rw [all]
  decide

/--
The counter of a mandate is the number of its held and committed reservations,
and never above `max_calls`.  So a reservation that can be released belongs to
a mandate whose counter is positive.
-/
theorem call_counting_is_exact
    {env : Env}
    {allowed : Sys → Action → Prop}
    {s : Sys}
    (reachable : Reachable env allowed s) :
    (∀ mandate ∈ s.db.mandates.rows,
      mandate.callsUsed =
          s.db.reservations.countWhere (fun row =>
            row.mandateId = mandate.id &&
              (row.status = .held || row.status = .committed)) ∧
        ∀ maxCalls, mandate.maxCalls = some maxCalls →
          mandate.callsUsed ≤ max 0 maxCalls) ∧
    (∀ reservation ∈ s.db.reservations.rows, reservation.status = .held →
      ∃ mandate,
        s.db.mandates.find reservation.mandateId = some mandate ∧
          0 < mandate.callsUsed) := by
  have counted := reachable_counted reachable
  refine ⟨?_, ?_⟩
  · intro mandate member
    exact ⟨counted.counted mandate member,
      fun maxCalls isMax => reachable_capped reachable mandate member _ isMax⟩
  · intro reservation member held
    obtain ⟨mandate, found⟩ :=
      (reachable_balanced reachable).ofMandate reservation member
    refine ⟨mandate, found, ?_⟩
    have isMandate : mandate.id = reservation.mandateId :=
      Table.key_of_find found
    rw [counted.counted mandate (Table.mem_of_find found)]
    have notNone : s.db.books.liveCalls mandate.id ≠ 0 := by
      intro none
      have notLive :=
        (Table.countWhere_eq_zero_iff _ _).mp none reservation member
      simp [isMandate, Reservation.isLive, held] at notLive
    omega

/-- A held reservation of the child, and the counter of its mandate. -/
theorem call_counting_is_exact_example :
    ∃ s reservation mandate,
      Reachable .plain (fun _ _ => True) s ∧
        s.db.reservations.find 1 = some reservation ∧
        reservation.status = .held ∧
        s.db.mandates.find reservation.mandateId = some mandate ∧
        0 < mandate.callsUsed ∧
        mandate.callsUsed =
          s.db.reservations.countWhere (fun row =>
            row.mandateId = mandate.id &&
              (row.status = .held || row.status = .committed)) := by
  have checked :
      (run .plain Sys.start twoCallsBelowOne).any
          (fun s => (s.db.reservations.find 1).any (·.status = .held)) =
        true := by
    decide
  obtain ⟨s, reachable, passes⟩ :=
    reachable_of_check (.of_forall (fun _ _ _ => trivial) _) checked
  simp only [Option.any_eq_true, decide_eq_true_eq] at passes
  obtain ⟨reservation, found, held⟩ := passes
  obtain ⟨counts, positive⟩ := call_counting_is_exact reachable
  obtain ⟨mandate, isMandate, used⟩ :=
    positive reservation (Table.mem_of_find found) held
  exact ⟨s, reservation, mandate, reachable, found, held, isMandate, used,
    (counts mandate (Table.mem_of_find isMandate)).1⟩

end Crossing
